import CellPurse.Address.Basic
import CellPurse.Proofs.Address.Bech32
import CellPurse.Proofs.Address.Regroup

/-!
# CellPurse.Proofs.Address.RoundTrip — addresses and their texts

An address is read back from its text, and a text in the full format is written again as its small form.  The older
formats name the same scripts, so that they are written in the full one.

* `toBytes_eq_ok_iff`: symbols are read as the bytes that are written as these symbols;
* `readPayload_full`: in the full format the payload that is read is the payload of the script;
* **`parse_encode`**: both directions.
-/

namespace CellPurse.Address

open Outcome Text

/-! ## Bytes and symbols -/

theorem convert_ofBytes (b : Bytes) : Regroup.convert 8 5 true (b.map UInt8.toNat) = some (ofBytes b) := by
  obtain ⟨gs, hgs⟩ : ∃ gs, Regroup.convert 8 5 true (b.map UInt8.toNat) = some gs := ⟨_, rfl⟩
  rw [ofBytes, hgs]
  rfl

theorem lt_of_mem_ofBytes {b : Bytes} {v : Nat} (h : v ∈ ofBytes b) : v < 32 :=
  ((Regroup.convert_true_iff (by decide) fun _ => Regroup.lt_of_mem_map_toNat).mp (convert_ofBytes b)).1 v h

/-- Symbols are read as the bytes that are written as these symbols. -/
theorem toBytes_eq_ok_iff {data : List Nat} (hd : ∀ v ∈ data, v < 32) {b : Bytes} :
    toBytes data = .ok b ↔ ofBytes b = data := by
  have hround : Regroup.convert 8 5 true (b.map UInt8.toNat) = some data ↔
      Regroup.convert 5 8 false data = some (b.map UInt8.toNat) :=
    Regroup.convert_true_iff_convert_false (by decide) (by decide) (fun _ => Regroup.lt_of_mem_map_toNat) hd
  rw [convert_ofBytes, Option.some.injEq] at hround
  rw [hround, toBytes]
  cases hc : Regroup.convert 5 8 false data with
  | none => simp
  | some gs =>
    obtain ⟨c, rfl⟩ := Regroup.exists_bytes ((Regroup.convert_false_iff (by decide) hd).mp hc).1
    have hback : (c.map UInt8.toNat).map UInt8.ofNat = c := by simp [Function.comp_def]
    have hinj : Function.Injective (List.map UInt8.toNat) := List.map_injective_iff.mpr fun _ _ => UInt8.toNat_inj.mp
    simp only [Except.ok.injEq, Option.some.injEq, hback]
    exact hinj.eq_iff.symm

/-! ## Payloads -/

theorem hashType_byte (t : HashType) : (UInt8.ofNat t.toNat).toNat = t.toNat := by cases t <;> rfl

theorem ofNat?_eq_some {n : Nat} {t : HashType} (h : HashType.ofNat? n = some t) : t.toNat = n := by
  unfold HashType.ofNat? at h
  split at h <;> cases h <;> rfl

theorem readFull_payload {s : Script} (h : s.codeHash.length = System.hashSize) :
    readFull (s.codeHash ++ UInt8.ofNat s.hashType.toNat :: s.args) = .ok s := by
  have h32 : s.codeHash.length = 32 := h
  have htake : (s.codeHash ++ UInt8.ofNat s.hashType.toNat :: s.args).take 32 = s.codeHash := by
    rw [← h32, List.take_left]
  have hdrop : (s.codeHash ++ UInt8.ofNat s.hashType.toNat :: s.args).drop 32 =
      UInt8.ofNat s.hashType.toNat :: s.args := by
    rw [← h32, List.drop_left]
  unfold readFull
  rw [if_neg (by simp [h32]; omega), hdrop, htake]
  simp only [hashType_byte, HashType.ofNat?_toNat]

theorem readFull_eq_ok {rest : Bytes} {s : Script} (h : readFull rest = .ok s) :
    s.codeHash.length = System.hashSize ∧ payload s = fullFormat :: rest := by
  unfold readFull at h
  split_ifs at h with hlen
  have hsplit : rest.take 32 ++ rest.drop 32 = rest := List.take_append_drop 32 rest
  cases hd : rest.drop 32 with
  | nil => simp [hd] at h
  | cons t args =>
    simp only [hd] at h
    cases ht : HashType.ofNat? t.toNat with
    | none => simp [ht] at h
    | some hashType =>
      simp only [ht, Except.ok.injEq] at h
      subst h
      refine ⟨by simp [System.hashSize]; omega, ?_⟩
      rw [hd] at hsplit
      rw [payload, ofNat?_eq_some ht, UInt8.ofNat_toNat, hsplit]

theorem readPayload_payload {s : Script} (h : s.codeHash.length = System.hashSize) :
    readPayload (payload s) Bech32.modifiedConst = .ok s := by
  simp only [readPayload, payload, if_true]
  exact readFull_payload h

/-- In the full format the payload that is read is the payload of the script, and came in the newer code. -/
theorem readPayload_full {rest : Bytes} {const : BitVec 30} {s : Script}
    (h : readPayload (fullFormat :: rest) const = .ok s) :
    const = Bech32.modifiedConst ∧ payload s = fullFormat :: rest := by
  simp only [readPayload, if_true] at h
  split_ifs at h with hconst
  exact ⟨hconst, (readFull_eq_ok h).2⟩

/-- Every format names a script whose code hash has the size of a hash. -/
theorem length_of_readPayload {p : Bytes} {const : BitVec 30} {s : Script} (h : readPayload p const = .ok s) :
    s.codeHash.length = System.hashSize := by
  have hold : ∀ {t : HashType} {rest : Bytes}, readOld t rest = .ok s → s.codeHash.length = System.hashSize := by
    intro t rest h
    unfold readOld at h
    split_ifs at h with hlen
    cases h
    simp [System.hashSize]
    omega
  have hshort : ∀ {rest : Bytes}, readShort rest = .ok s → s.codeHash.length = System.hashSize := by
    intro rest h
    unfold readShort at h
    cases rest with
    | nil => cases h
    | cons index args =>
      simp only at h
      split_ifs at h with hlen
      unfold shortCode? at h
      split_ifs at h with h0 h1
      · cases h
        rfl
      · cases h
        rfl
  unfold readPayload at h
  cases p with
  | nil => cases h
  | cons format rest =>
    simp only at h
    split_ifs at h
    · exact (readFull_eq_ok h).1
    · exact hshort h
    · exact hold h
    · exact hold h

/-! ## Texts -/

theorem ofHrp?_eq_some_iff {hrp : List Char} {n : Network} : Network.ofHrp? hrp = some n ↔ hrp = n.hrp := by
  constructor
  · intro h
    unfold Network.ofHrp? at h
    split_ifs at h with h₁ h₂
    · cases h
      exact h₁
    · cases h
      exact h₂
  · rintro rfl
    exact Network.ofHrp?_hrp n

theorem parseChars_eq_ok_iff {text : List Char} {expected : Option Network} {a : Address} :
    parseChars text expected = .ok a ↔ ∃ data const p, Bech32.decode text = .ok (a.network.hrp, data, const) ∧
      (∀ e, expected = some e → e = a.network) ∧ toBytes data = .ok p ∧ readPayload p const = .ok a.script := by
  unfold parseChars
  rw [bind_eq_ok_iff]
  constructor
  · rintro ⟨⟨hrp, data, const⟩, hdecode, h⟩
    cases hn : Network.ofHrp? hrp with
    | none => simp [hn] at h
    | some network =>
      have hexpected : ∀ e, expected = some e → e = network := by
        rintro e rfl
        by_contra hne
        simp only [hn, if_neg hne] at h
        cases h
      have htail : (do let p ← toBytes data; let s ← readPayload p const; pure (Address.mk network s)) =
          Except.ok a := by
        cases expected with
        | none => simpa only [hn] using h
        | some e => simpa only [hn, if_pos (hexpected e rfl)] using h
      obtain ⟨p, hp, htail⟩ := bind_eq_ok_iff.mp htail
      obtain ⟨s, hs, htail⟩ := bind_eq_ok_iff.mp htail
      cases pure_eq_ok_iff.mp htail
      rw [ofHrp?_eq_some_iff.mp hn] at hdecode
      exact ⟨data, const, p, mapError_eq_ok_iff.mp hdecode, hexpected, hp, hs⟩
  · rintro ⟨data, const, p, hdecode, hexpected, hp, hs⟩
    refine ⟨(a.network.hrp, data, const), mapError_eq_ok_iff.mpr hdecode, ?_⟩
    have htail : (do let p ← toBytes data; let s ← readPayload p const; pure (Address.mk a.network s)) = Except.ok a :=
      bind_eq_ok_iff.mpr ⟨p, hp, bind_eq_ok_iff.mpr ⟨a.script, hs, rfl⟩⟩
    cases expected with
    | none => simpa only [Network.ofHrp?_hrp] using htail
    | some e => simpa only [Network.ofHrp?_hrp, if_pos (hexpected e rfl)] using htail

theorem writable_ofBytes (network : Network) (p : Bytes) {const : BitVec 30}
    (hconst : const = Bech32.plainConst ∨ const = Bech32.modifiedConst) :
    Bech32.Writable network.hrp (ofBytes p) const where
  nonempty := by cases network <;> decide
  visible := by cases network <;> simp [Network.hrp]
  small := by cases network <;> simp [Network.hrp]
  symbols := fun _ => lt_of_mem_ofBytes
  const := hconst

theorem writable_encode (a : Address) :
    Bech32.Writable a.network.hrp (ofBytes (payload a.script)) Bech32.modifiedConst :=
  writable_ofBytes a.network _ (.inr rfl)

/-- The text of a payload is read as what it was made of. -/
theorem decode_ofBytes (network : Network) (p : Bytes) {const : BitVec 30}
    (hconst : const = Bech32.plainConst ∨ const = Bech32.modifiedConst) :
    Bech32.decode (Bech32.encode network.hrp (ofBytes p) const) = .ok (network.hrp, ofBytes p, const) := by
  have hw := writable_ofBytes network p hconst
  obtain ⟨hmix, hlower⟩ := (Case.not_isMixed_and_lower_eq_iff fun d => hw.isSmall).mpr (.inl rfl)
  exact Bech32.decode_of_lower hw hmix hlower

/-- The text of an address is read as what it was made of. -/
theorem decode_encodeChars (a : Address) : Bech32.decode a.encodeChars =
    .ok (a.network.hrp, ofBytes (payload a.script), Bech32.modifiedConst) :=
  decode_ofBytes a.network _ (.inr rfl)

/-- The text of a payload that holds a script is an address of this script. -/
theorem parse_of_readPayload {network : Network} {p : Bytes} {const : BitVec 30} {s : Script}
    (hconst : const = Bech32.plainConst ∨ const = Bech32.modifiedConst) (h : readPayload p const = .ok s)
    {expected : Option Network} (he : ∀ e, expected = some e → e = network) :
    parse (String.ofList (Bech32.encode network.hrp (ofBytes p) const)) expected = .ok ⟨network, s⟩ := by
  rw [parse, String.toList_ofList, parseChars_eq_ok_iff]
  exact ⟨_, _, _, decode_ofBytes network p hconst, he, (toBytes_eq_ok_iff fun _ => lt_of_mem_ofBytes).mpr rfl, h⟩

theorem parse_of_encode {a : Address} (h : a.script.codeHash.length = System.hashSize) {expected : Option Network}
    (he : ∀ e, expected = some e → e = a.network) : parse a.encode expected = .ok a :=
  parse_of_readPayload (.inr rfl) (readPayload_payload h) he

/-- A text in the full format holds what its address is written as. -/
theorem encodeChars_of_full {text : List Char} {expected : Option Network} {a : Address}
    (h : parseChars text expected = .ok a) {hrp : List Char} {data : List Nat} {const : BitVec 30}
    (hdecode : Bech32.decode text = .ok (hrp, data, const)) {rest : Bytes}
    (hfull : toBytes data = .ok (fullFormat :: rest)) : a.encodeChars = Case.lower text := by
  obtain ⟨data', const', p, hdecode', -, hp, hs⟩ := parseChars_eq_ok_iff.mp h
  obtain ⟨rfl, rfl, rfl⟩ : hrp = a.network.hrp ∧ data = data' ∧ const = const' := by
    simpa using hdecode.symm.trans hdecode'
  cases hp.symm.trans hfull
  obtain ⟨hw, -, hlower⟩ := Bech32.lower_of_decode hdecode
  obtain ⟨rfl, hpayload⟩ := readPayload_full hs
  have hdata : ofBytes (payload a.script) = data := by
    rw [hpayload]
    exact (toBytes_eq_ok_iff hw.symbols).mp hfull
  rw [encodeChars, hdata, hlower]

/-- **An address is read back from its text**, and so is the address of any text that is read, in whichever format; a
text in the full format is written again as its small form. -/
theorem parse_encode :
    (∀ a : Address, a.script.codeHash.length = System.hashSize →
      parse a.encode = .ok a ∧ parse a.encode (some a.network) = .ok a) ∧
    (∀ text expected a, parse text expected = .ok a →
      parse a.encode = .ok a ∧ parse a.encode (some a.network) = .ok a) ∧
    (∀ text expected a, parse text expected = .ok a → ∀ hrp data const rest,
      Bech32.decode text.toList = .ok (hrp, data, const) → toBytes data = .ok (fullFormat :: rest) →
      a.encode = String.ofList (Case.lower text.toList)) := by
  have hback : ∀ a : Address, a.script.codeHash.length = System.hashSize →
      parse a.encode = .ok a ∧ parse a.encode (some a.network) = .ok a := by
    intro a h
    exact ⟨parse_of_encode h nofun, parse_of_encode h fun e he => (Option.some.inj he).symm⟩
  refine ⟨hback, ?_, ?_⟩
  · intro text expected a h
    obtain ⟨_, _, _, -, -, -, hs⟩ := parseChars_eq_ok_iff.mp h
    exact hback a (length_of_readPayload hs)
  · intro text expected a h hrp data const rest hdecode hfull
    rw [encode, encodeChars_of_full h hdecode hfull]

namespace Sample

/-- The address of a key. -/
def address : Address := ⟨.mainnet, System.sighashLock
  [0xb3, 0x9b, 0xbc, 0x0b, 0x36, 0x73, 0xc7, 0xd3, 0x64, 0x50, 0xbc, 0x14, 0xcf, 0xcd, 0xad, 0x2d, 0x55, 0x9c, 0x6c,
    0x64]⟩

/-- It in the short format. -/
def short : String := "ckb1qyqt8xaupvm8837nv3gtc9x0ekkj64vud3jqfwyw5v"

/-- It in the full format, in capitals. -/
def capitals : String :=
  "CKB1QZDA0CR08M85HC8JLNFP3ZER7XULEJYWT49KT2RR0VTHYWAA50XWSQDNNW7QKDNNCLFKG59UZN8UMTFD2KWXCEQXWQUC4"

end Sample

theorem parse_encode_sample :
    Sample.address.script.codeHash.length = System.hashSize ∧ parse Sample.address.encode = .ok Sample.address ∧
    parse Sample.short = .ok Sample.address ∧ parse Sample.address.encode (some .mainnet) = .ok Sample.address ∧
    parse Sample.capitals = .ok Sample.address ∧
    Sample.address.encode = String.ofList (Case.lower Sample.capitals.toList) := by
  obtain ⟨hscript, htext, hfull⟩ := parse_encode
  have hlen : Sample.address.script.codeHash.length = System.hashSize := by decide
  have hshort : parse Sample.short = .ok Sample.address := by decide +kernel
  have hdecode : Bech32.decode Sample.capitals.toList = .ok (Sample.address.network.hrp,
      ofBytes (payload Sample.address.script), Bech32.modifiedConst) := by decide +kernel
  have hbytes : toBytes (ofBytes (payload Sample.address.script)) = .ok (payload Sample.address.script) :=
    (toBytes_eq_ok_iff fun _ => lt_of_mem_ofBytes).mpr rfl
  have hcapitals : parse Sample.capitals = .ok Sample.address :=
    parseChars_eq_ok_iff.mpr ⟨_, _, _, hdecode, nofun, hbytes, readPayload_payload hlen⟩
  exact ⟨hlen, (hscript _ hlen).1, hshort, (htext _ _ _ hshort).2, hcapitals,
    hfull _ _ _ hcapitals _ _ _ _ hdecode hbytes⟩

end CellPurse.Address
