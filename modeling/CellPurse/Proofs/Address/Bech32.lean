import CellPurse.Proofs.Address.Checksum
import CellPurse.Proofs.Outcome
import CellPurse.Proofs.Text.Case

/-!
# CellPurse.Proofs.Address.Bech32 — which texts are checked texts

A text is read as soon as its small form is a written text and it does not mix cases.  The small form of a text is taken
before its characters are looked at, so that a Kelvin sign passes for a `K` among capitals.

* `decode_of_lower`, `lower_of_decode`: what is read, in terms of the small form;
* **`decode_accepts_written`**: the texts that are read, one by one: the written text, and its capitals, where some `K`
  may be Kelvin signs.
-/

namespace CellPurse.Bech32

open Outcome Text

/-! ## Symbols and the separator -/

theorem symbol?_char_all : ∀ v < 32, symbol? (char v) = some v := by decide

theorem char_range_all : ∀ v < 32, 33 ≤ (char v).toNat ∧ (char v).toNat ≤ 126 ∧ (char v).isUpper = false ∧
    char v ≠ '1' := by decide

theorem symbol?_eq_some_iff {c : Char} {v : Nat} : symbol? c = some v ↔ v < 32 ∧ char v = c := by
  constructor
  · intro h
    obtain ⟨hlt, hget, -⟩ := List.idxOf?_eq_some_iff.mp h
    refine ⟨hlt, ?_⟩
    rw [char, List.getD_eq_getElem _ _ hlt, hget]
  · rintro ⟨hv, rfl⟩
    exact symbol?_char_all v hv

theorem mapM_symbol?_eq_some_iff {cs : List Char} {data : List Nat} :
    cs.mapM symbol? = some data ↔ (∀ v ∈ data, v < 32) ∧ cs = data.map char := by
  induction cs generalizing data with
  | nil =>
    rw [List.mapM_nil]
    constructor
    · rintro ⟨⟩
      exact ⟨nofun, rfl⟩
    · rintro ⟨-, h⟩
      rw [List.map_eq_nil_iff.mp h.symm]
      rfl
  | cons c cs ih =>
    simp only [List.mapM_cons, Option.bind_eq_bind, Option.bind_eq_some_iff, Option.pure_def, Option.some.injEq]
    constructor
    · rintro ⟨v, hv, r, hr, rfl⟩
      obtain ⟨hlt, rfl⟩ := symbol?_eq_some_iff.mp hv
      obtain ⟨hall, rfl⟩ := ih.mp hr
      exact ⟨List.forall_mem_cons.mpr ⟨hlt, hall⟩, rfl⟩
    · rintro ⟨hall, h⟩
      obtain ⟨v, r, rfl, hv, hr⟩ := List.map_eq_cons_iff.mp h.symm
      obtain ⟨hlt, hrest⟩ := List.forall_mem_cons.mp hall
      exact ⟨v, symbol?_eq_some_iff.mpr ⟨hlt, hv⟩, r, ih.mpr ⟨hrest, hr.symm⟩, rfl⟩

theorem map_char_inj {vs ws : List Nat} (hvs : ∀ v ∈ vs, v < 32) (hws : ∀ w ∈ ws, w < 32)
    (h : vs.map char = ws.map char) : vs = ws := by
  have hread := mapM_symbol?_eq_some_iff.mpr ⟨hvs, rfl⟩
  rw [mapM_symbol?_eq_some_iff.mpr ⟨hws, h⟩] at hread
  exact (Option.some.inj hread).symm

/-- The last separator is where none follows. -/
theorem lastSeparator?_append {a b : List Char} (hb : '1' ∉ b) : lastSeparator? (a ++ '1' :: b) = some a.length := by
  have hrev : (a ++ '1' :: b).reverse = b.reverse ++ '1' :: a.reverse := by simp
  have hidx : (b.reverse ++ '1' :: a.reverse).idxOf? '1' = some b.length := by
    rw [List.idxOf?_eq_some_iff]
    refine ⟨by simp, by simp, ?_⟩
    intro j hj
    rw [List.getElem_append_left (by simpa using hj)]
    intro heq
    exact hb (List.mem_reverse.mp (heq ▸ List.getElem_mem _))
  unfold lastSeparator?
  rw [hrev, hidx]
  simp

theorem exists_of_lastSeparator? {cs : List Char} {pos : Nat} (h : lastSeparator? cs = some pos) :
    ∃ a b, cs = a ++ '1' :: b ∧ '1' ∉ b ∧ a.length = pos := by
  have hmem : '1' ∈ cs.reverse := by
    by_contra hno
    rw [lastSeparator?, List.idxOf?_eq_none_iff.mpr hno] at h
    cases h
  obtain ⟨b, a, hsplit, hb⟩ := List.eq_append_cons_of_mem hmem
  have hcs : cs = a.reverse ++ '1' :: b.reverse := by
    have := congrArg List.reverse hsplit
    simpa using this
  have hb' : '1' ∉ b.reverse := by simpa using hb
  rw [hcs, lastSeparator?_append hb'] at h
  exact ⟨_, _, hcs, hb', Option.some.inj h⟩

/-! ## Reading -/

/-- A prefix, symbols and a constant that a text is made of: the prefix has small, visible characters of ASCII. -/
structure Writable (hrp : List Char) (data : List Nat) (const : BitVec 30) : Prop where
  nonempty : hrp ≠ []
  visible : ∀ c ∈ hrp, 33 ≤ c.toNat ∧ c.toNat ≤ 126
  small : ∀ c ∈ hrp, c.isUpper = false
  symbols : ∀ v ∈ data, v < 32
  const : const = plainConst ∨ const = modifiedConst

variable {hrp : List Char} {data : List Nat} {const : BitVec 30} {t : List Char}

/-- What follows the separator. -/
def body (hrp : List Char) (data : List Nat) (const : BitVec 30) : List Nat :=
  data ++ checksum hrp (data.map (BitVec.ofNat 30)) const

theorem encode_eq (hrp : List Char) (data : List Nat) (const : BitVec 30) :
    encode hrp data const = hrp ++ '1' :: (body hrp data const).map char := rfl

theorem length_body (hrp : List Char) (data : List Nat) (const : BitVec 30) :
    (body hrp data const).length = data.length + 6 := by
  rw [body, List.length_append, length_checksum]

theorem polymod_body (hrp : List Char) (data : List Nat) (const : BitVec 30) :
    polymod (expand hrp ++ (body hrp data const).map (BitVec.ofNat 30)) = const := by
  rw [body, List.map_append, ← List.append_assoc, polymod_checksum]

theorem Writable.lt_of_mem_body (h : Writable hrp data const) {v : Nat} (hv : v ∈ body hrp data const) : v < 32 := by
  rcases List.mem_append.mp hv with hv | hv
  · exact h.symbols v hv
  · exact lt_of_mem_symbols hv

theorem Writable.visible_encode (h : Writable hrp data const) {c : Char} (hc : c ∈ encode hrp data const) :
    33 ≤ c.toNat ∧ c.toNat ≤ 126 ∧ c.isUpper = false := by
  rw [encode_eq] at hc
  rcases List.mem_append.mp hc with hc | hc
  · exact ⟨(h.visible c hc).1, (h.visible c hc).2, h.small c hc⟩
  · rcases List.mem_cons.mp hc with rfl | hc
    · decide
    · obtain ⟨v, hv, rfl⟩ := List.mem_map.mp hc
      obtain ⟨h₁, h₂, h₃, -⟩ := char_range_all v (h.lt_of_mem_body hv)
      exact ⟨h₁, h₂, h₃⟩

theorem Writable.isSmall (h : Writable hrp data const) {c : Char} (hc : c ∈ encode hrp data const) :
    Case.IsSmall c := by
  obtain ⟨h₁, h₂, h₃⟩ := h.visible_encode hc
  exact ⟨by omega, by omega, h₃⟩

theorem not_separator_of_mem {vs : List Nat} (h : ∀ v ∈ vs, v < 32) : '1' ∉ vs.map char := by
  intro hmem
  obtain ⟨v, hv, hchar⟩ := List.mem_map.mp hmem
  exact (char_range_all v (h v hv)).2.2.2 hchar

/-- A text is read if its small form is a written text and it does not mix cases. -/
theorem decode_of_lower (hw : Writable hrp data const) (hmix : Case.isMixed t = false)
    (hlower : Case.lower t = encode hrp data const) : decode t = .ok (hrp, data, const) := by
  have hsep : lastSeparator? (encode hrp data const) = some hrp.length := by
    rw [encode_eq, lastSeparator?_append (not_separator_of_mem fun v => hw.lt_of_mem_body)]
  have hlen : (encode hrp data const).length = hrp.length + (data.length + 7) := by
    rw [encode_eq, List.length_append, List.length_cons, List.length_map, length_body]
  have hpos : 0 < hrp.length := List.length_pos_of_ne_nil hw.nonempty
  have hrange : ((encode hrp data const).any fun c => decide (c.toNat < 33) || decide (126 < c.toNat)) = false := by
    rw [List.any_eq_false]
    intro c hc
    have := hw.visible_encode hc
    simp
    omega
  have htake : (encode hrp data const).take hrp.length = hrp := by rw [encode_eq, List.take_left]
  have hdrop : (encode hrp data const).drop (hrp.length + 1) = (body hrp data const).map char := by
    rw [encode_eq, List.drop_append]
    simp
  have hread : ((body hrp data const).map char).mapM symbol? = some (body hrp data const) :=
    mapM_symbol?_eq_some_iff.mpr ⟨fun v => hw.lt_of_mem_body, rfl⟩
  have hdata : (body hrp data const).take ((body hrp data const).length - 6) = data := by
    rw [length_body, Nat.add_sub_cancel, body, List.take_left]
  unfold decode
  simp only [hmix, hlower, hsep, hrange, htake, hdrop, hread, polymod_body, hdata, Bool.false_eq_true, if_false]
  rw [if_neg (by omega), if_pos hw.const]

/-- Symbols that give a constant behind a prefix end in the checksum. -/
theorem eq_body {vs : List Nat} (hvs : ∀ v ∈ vs, v < 32) (hlen : 6 ≤ vs.length)
    (hconst : polymod (expand hrp ++ vs.map (BitVec.ofNat 30)) = const) :
    vs = body hrp (vs.take (vs.length - 6)) const := by
  have hsplit : vs.take (vs.length - 6) ++ vs.drop (vs.length - 6) = vs := List.take_append_drop _ vs
  have hlast : (vs.drop (vs.length - 6)).length = 6 := by rw [List.length_drop]; omega
  have hlt : ∀ v ∈ vs.drop (vs.length - 6), v < 32 := fun v hv => hvs v (List.mem_of_mem_drop hv)
  rw [← hsplit, List.map_append, ← List.append_assoc] at hconst
  have hcheck := (polymod_append_eq_iff hlast hlt const).mp hconst
  rw [body, checksum, ← hcheck, hsplit]

/-- And what is read was written so. -/
theorem lower_of_decode (h : decode t = .ok (hrp, data, const)) :
    Writable hrp data const ∧ Case.isMixed t = false ∧ Case.lower t = encode hrp data const := by
  unfold decode at h
  cases hmix : Case.isMixed t with
  | true => simp [hmix] at h
  | false =>
    simp only [hmix, Bool.false_eq_true, if_false] at h
    cases hsep : lastSeparator? (Case.lower t) with
    | none => simp [hsep] at h
    | some pos =>
      simp only [hsep] at h
      obtain ⟨a, b, hsplit, -, rfl⟩ := exists_of_lastSeparator? hsep
      have htake : (a ++ '1' :: b).take a.length = a := List.take_left
      have hdrop : (a ++ '1' :: b).drop (a.length + 1) = b := by rw [List.drop_append]; simp
      rw [hsplit, htake, hdrop] at h
      split_ifs at h with hplace hrange
      cases hread : b.mapM symbol? with
      | none => simp [hread] at h
      | some vs =>
        simp only [hread] at h
        split_ifs at h with hknown
        obtain ⟨rfl, rfl, hconst⟩ : a = hrp ∧ vs.take (vs.length - 6) = data ∧
          polymod (expand a ++ vs.map (BitVec.ofNat 30)) = const := by simpa using h
        rw [hconst] at hknown
        obtain ⟨hvs, rfl⟩ := mapM_symbol?_eq_some_iff.mp hread
        rw [not_or, List.length_append, List.length_cons, List.length_map] at hplace
        have hbody := eq_body hvs (by omega) hconst
        have hvisible : ∀ c ∈ a ++ '1' :: vs.map char, 33 ≤ c.toNat ∧ c.toNat ≤ 126 := by
          rw [Bool.not_eq_true, List.any_eq_false] at hrange
          intro c hc
          have := hrange c hc
          simp at this
          omega
        have hfolds := (Case.lower_eq_iff fun d hd => by have := hvisible d hd; omega).mp hsplit
        refine ⟨⟨?_, ?_, ?_, ?_, hknown⟩, rfl, ?_⟩
        · rintro rfl
          simp at hplace
        · intro c hc
          exact hvisible c (List.mem_append_left _ hc)
        · intro c hc
          obtain ⟨d, hd⟩ := exists_of_forall₂ hfolds.flip (List.mem_append_left _ hc)
          exact Case.not_isUpper_of_folds hd
        · intro v hv
          exact hvs v (List.mem_of_mem_take hv)
        · rw [hsplit, encode_eq, ← hbody]

/-- **The texts that are read** are the written text and its capitals, where a Kelvin sign may stand for any `K`; those
without this sign, and no others, are the written text or its capitals as they are. -/
theorem decode_accepts_written (t hrp : List Char) (data : List Nat) (const : BitVec 30) :
    (decode t = .ok (hrp, data, const) ↔ Writable hrp data const ∧
      (t = encode hrp data const ∨ List.Forall₂ Case.Capital t (encode hrp data const))) ∧
    (decode t = .ok (hrp, data, const) → (Case.kelvin ∉ t ↔
      t = encode hrp data const ∨ t = (encode hrp data const).map Char.toUpper)) := by
  have hread : decode t = .ok (hrp, data, const) ↔ Writable hrp data const ∧
      (t = encode hrp data const ∨ List.Forall₂ Case.Capital t (encode hrp data const)) := by
    constructor
    · intro h
      obtain ⟨hw, hcase⟩ := lower_of_decode h
      exact ⟨hw, (Case.not_isMixed_and_lower_eq_iff fun d => hw.isSmall).mp hcase⟩
    · rintro ⟨hw, hspelled⟩
      obtain ⟨hmix, hlower⟩ := (Case.not_isMixed_and_lower_eq_iff fun d => hw.isSmall).mpr hspelled
      exact decode_of_lower hw hmix hlower
  refine ⟨hread, ?_⟩
  intro h
  obtain ⟨hw, hspelled⟩ := hread.mp h
  have hascii : ∀ d ∈ encode hrp data const, d.toNat < 0x80 := fun d hd => (hw.isSmall hd).2.1
  constructor
  · intro hk
    exact hspelled.imp_right (Case.eq_map_toUpper hk)
  · rintro (rfl | rfl)
    · exact Case.not_kelvin_of_ascii hascii
    · apply Case.not_kelvin_of_ascii
      intro c hc
      obtain ⟨d, hd, rfl⟩ := List.mem_map.mp hc
      exact Case.toNat_toUpper_lt (hascii d hd)

theorem decode_accepts_written_sample :
    decode "CKB1KNZVJW".toList = .ok ("ckb".toList, [], plainConst) ∧ Case.kelvin ∉ "CKB1KNZVJW".toList ∧
      Writable "ckb".toList [] plainConst ∧
      ("CKB1KNZVJW".toList = encode "ckb".toList [] plainConst ∨
        "CKB1KNZVJW".toList = (encode "ckb".toList [] plainConst).map Char.toUpper) ∧
      decode (encode "ckb".toList [] plainConst) = .ok ("ckb".toList, [], plainConst) := by
  obtain ⟨hread, hplain⟩ := decode_accepts_written "CKB1KNZVJW".toList "ckb".toList [] plainConst
  have h : decode "CKB1KNZVJW".toList = .ok ("ckb".toList, [], plainConst) := by decide +kernel
  have hk : Case.kelvin ∉ "CKB1KNZVJW".toList := by decide
  have hw := (hread.mp h).1
  exact ⟨h, hk, hw, (hplain h).mp hk, (decode_accepts_written _ _ _ _).1.mpr ⟨hw, .inl rfl⟩⟩

/-- A text with a Kelvin sign is read, though it is neither the written text nor its capitals. -/
theorem decode_kelvin :
    decode ['C', Case.kelvin, 'B', '1', 'K', 'N', 'Z', 'V', 'J', 'W'] = .ok (['c', 'k', 'b'], [], plainConst) ∧
      126 < Case.kelvin.toNat ∧
      ['C', Case.kelvin, 'B', '1', 'K', 'N', 'Z', 'V', 'J', 'W'] ≠ encode ['c', 'k', 'b'] [] plainConst ∧
      ['C', Case.kelvin, 'B', '1', 'K', 'N', 'Z', 'V', 'J', 'W'] ≠
        (encode ['c', 'k', 'b'] [] plainConst).map Char.toUpper := by
  refine ⟨?_, ?_, ?_, ?_⟩ <;> decide +kernel

end CellPurse.Bech32
