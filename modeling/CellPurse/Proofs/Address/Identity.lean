import CellPurse.Address.Identity
import CellPurse.Proofs.Address.RoundTrip
import CellPurse.Proofs.Ledger.Script
import CellPurse.Transfer.Request

/-!
# CellPurse.Proofs.Address.Identity — all names of a lock agree

The lock of one key has many names: the hash of the key, its public key, its address in any format and spelling, and
the hash of the lock.

* `Hex.decode_hex`; `Address.not_hex_of_parse`: no address is a hexadecimal text, so that a text is at most one of both;
* `Address.shortText`, `Address.typeText`: the older texts of the address of a key;
* `Identity.Names network keyHash hash i`: `i` names the lock of the key hash, which has the hash `hash`;
* `Identity.resolve_eq_error`: the one fault that does not count as bad input; `Identity.length_of_tooWide`: only texts
  of more characters than a word can count have it;
* **`Identity.resolve_agrees`**: all names of a lock agree, and what names no lock is bad input.
-/

namespace CellPurse

open Outcome Text

/-! ## Hexadecimal texts -/

namespace Hex

theorem char_ne_x_all : ∀ n < 16, Digit.char n ≠ 'x' ∧ Digit.char n ≠ 'X' := by decide

/-- Digits do not start with a mark. -/
theorem strip_hexDigits (b : Bytes) : strip b.hexDigits = b.hexDigits := by
  cases b with
  | nil => rfl
  | cons d r =>
    obtain ⟨hsmall, hcapital⟩ := char_ne_x_all (d.toNat % 16) (Nat.mod_lt _ (by decide))
    have hdigits : Bytes.hexDigits (d :: r) = Digit.char (d.toNat / 16) :: Digit.char (d.toNat % 16) ::
        Bytes.hexDigits r := rfl
    rw [hdigits]
    unfold strip
    split
    next _ h => exact absurd (List.cons.inj (List.cons.inj h).2).1 hsmall
    next _ h => exact absurd (List.cons.inj (List.cons.inj h).2).1 hcapital
    next => rfl

/-- What `hex` writes is read back. -/
theorem decode_hex (b : Bytes) : decode b.hex = .ok b := by
  rw [decode, Bytes.hex, String.toList_ofList, strip_hexDigits, decodeDigits_hexDigits]

/-- The first of two characters may be a digit of sixteen; if the second is none, the text is not hexadecimal. -/
theorem decode_of_second {text : String} {c d : Char} {r : List Char} (htext : text.toList = c :: d :: r)
    (hzero : c ≠ '0') (hblank : Blank.isAscii c = false) (hdigit : Digit.hex? d = none) :
    ∃ f, decode text = .error f := by
  have hstrip : strip (c :: d :: r) = c :: d :: r := by
    unfold strip
    split
    next _ h => exact absurd (List.cons.inj h).1 hzero
    next _ h => exact absurd (List.cons.inj h).1 hzero
    next => rfl
  rw [decode, htext, hstrip, decodeDigits]
  split
  · exact ⟨_, rfl⟩
  · rw [pairs, if_neg (by simp [hblank])]
    cases Digit.hex? c with
    | none => exact ⟨_, rfl⟩
    | some hi => simp only [hdigit]; exact ⟨_, rfl⟩

end Hex

/-! ## Texts of addresses -/

namespace Address

/-- The address of a key in the short format. -/
def shortText (network : Network) (keyHash : Bytes) : String :=
  String.ofList (Bech32.encode network.hrp (ofBytes (shortFormat :: 0 :: keyHash)) Bech32.plainConst)

/-- The address of a key in the deprecated format of scripts that are named by type. -/
def typeText (network : Network) (keyHash : Bytes) : String :=
  String.ofList (Bech32.encode network.hrp (ofBytes (4 :: (System.sighashCode ++ keyHash))) Bech32.plainConst)

variable {network : Network} {keyHash : Bytes}

theorem readPayload_short (h : keyHash.length = System.keyHashSize) :
    readPayload (shortFormat :: 0 :: keyHash) Bech32.plainConst = .ok (System.sighashLock keyHash) := by
  have hread : readShort (0 :: keyHash) = .ok (System.sighashLock keyHash) := by
    simp only [readShort, h, if_true]
    rfl
  exact hread

theorem readPayload_type (keyHash : Bytes) :
    readPayload (4 :: (System.sighashCode ++ keyHash)) Bech32.plainConst = .ok (System.sighashLock keyHash) := by
  have hcode : System.sighashCode.length = 32 := rfl
  have hread : readOld .type (System.sighashCode ++ keyHash) = .ok (System.sighashLock keyHash) := by
    have htake : (System.sighashCode ++ keyHash).take 32 = System.sighashCode := by rw [← hcode, List.take_left]
    have hdrop : (System.sighashCode ++ keyHash).drop 32 = keyHash := by rw [← hcode, List.drop_left]
    rw [readOld, if_neg (by rw [List.length_append, hcode]; omega), htake, hdrop]
    rfl
  exact hread

theorem parse_shortText (h : keyHash.length = System.keyHashSize) :
    parse (shortText network keyHash) (some network) = .ok ⟨network, System.sighashLock keyHash⟩ :=
  parse_of_readPayload (.inl rfl) (readPayload_short h) fun _ he => (Option.some.inj he).symm

theorem parse_typeText (network : Network) (keyHash : Bytes) :
    parse (typeText network keyHash) (some network) = .ok ⟨network, System.sighashLock keyHash⟩ :=
  parse_of_readPayload (.inl rfl) (readPayload_type keyHash) fun _ he => (Option.some.inj he).symm

theorem parse_fullText (network : Network) (keyHash : Bytes) :
    parse (encode ⟨network, System.sighashLock keyHash⟩) (some network) =
      .ok ⟨network, System.sighashLock keyHash⟩ :=
  parse_of_encode rfl fun _ he => (Option.some.inj he).symm

variable {text : String} {expected : Option Network} {a : Address}

/-- The text of an address, character by character: the written text, or its capitals. -/
theorem spelled_of_parse (h : parse text expected = .ok a) : ∃ data const,
    (text.toList = Bech32.encode a.network.hrp data const ∨
      List.Forall₂ Case.Capital text.toList (Bech32.encode a.network.hrp data const)) ∧
    ∃ p, toBytes data = .ok p ∧ readPayload p const = .ok a.script ∧ ∀ v ∈ data, v < 32 := by
  obtain ⟨data, const, p, hdecode, -, hp, hs⟩ := parseChars_eq_ok_iff.mp h
  obtain ⟨hw, hcase⟩ := Bech32.lower_of_decode hdecode
  exact ⟨data, const, (Case.not_isMixed_and_lower_eq_iff fun d => hw.isSmall).mp hcase, p, hp, hs, hw.symbols⟩

/-- No address is a hexadecimal text: its second letter is a `k`. -/
theorem not_hex_of_parse (h : parse text expected = .ok a) : ∃ f, Hex.decode text = .error f := by
  obtain ⟨data, const, hspelled, -⟩ := spelled_of_parse h
  obtain ⟨r, hr⟩ : ∃ r, Bech32.encode a.network.hrp data const = 'c' :: 'k' :: r := by
    cases a.network with
    | mainnet => exact ⟨_, rfl⟩
    | testnet => exact ⟨_, rfl⟩
  rw [hr] at hspelled
  rcases hspelled with htext | hcapital
  · exact Hex.decode_of_second htext (by decide) (by decide) (by decide)
  · obtain ⟨c, u, hc, hu, htext⟩ := List.forall₂_cons_right_iff.mp hcapital
    obtain ⟨d, u, hd, -, rfl⟩ := List.forall₂_cons_right_iff.mp hu
    rcases hc with rfl | ⟨-, hc⟩
    · rcases hd with rfl | ⟨rfl, -⟩
      · exact Hex.decode_of_second htext (by decide) (by decide) (by decide)
      · exact Hex.decode_of_second htext (by decide) (by decide) (by decide)
    · exact absurd hc (by decide)

theorem length_ofBytes (b : Bytes) : 8 * b.length ≤ 5 * (ofBytes b).length := by
  obtain ⟨-, k, -, hfill⟩ :=
    (Regroup.convert_true_iff (by decide) fun _ => Regroup.lt_of_mem_map_toNat).mp (convert_ofBytes b)
  have hlen := congrArg List.length hfill
  rw [Regroup.length_stream, List.length_append, Regroup.length_stream, List.length_map] at hlen
  omega

theorem length_args_of_readPayload {p : Bytes} {const : BitVec 30} {s : Script} (h : readPayload p const = .ok s) :
    s.args.length ≤ p.length := by
  have hold : ∀ {t : HashType} {rest : Bytes}, readOld t rest = .ok s → s.args.length ≤ rest.length := by
    intro t rest h
    unfold readOld at h
    split_ifs at h
    cases h
    exact (List.drop_sublist 32 rest).length_le
  have hshort : ∀ {rest : Bytes}, readShort rest = .ok s → s.args.length ≤ rest.length := by
    intro rest h
    unfold readShort at h
    cases rest with
    | nil => cases h
    | cons index args =>
      simp only at h
      split_ifs at h
      cases hcode : shortCode? index with
      | none => simp [hcode] at h
      | some code =>
        simp only [hcode, Except.ok.injEq] at h
        subst h
        exact Nat.le_succ _
  have hfull : ∀ {rest : Bytes}, readFull rest = .ok s → s.args.length ≤ rest.length := by
    intro rest h
    have hlen := congrArg List.length (readFull_eq_ok h).2
    simp only [payload, List.length_cons, List.length_append] at hlen
    omega
  unfold readPayload at h
  cases p with
  | nil => cases h
  | cons format rest =>
    simp only at h
    rw [List.length_cons]
    split_ifs at h
    · exact Nat.le_succ_of_le (hfull h)
    · exact Nat.le_succ_of_le (hshort h)
    · exact Nat.le_succ_of_le (hold h)
    · exact Nat.le_succ_of_le (hold h)

/-- Eight bits of arguments take five bits of a character each. -/
theorem length_of_parse (h : parse text expected = .ok a) : 8 * a.args.length ≤ 5 * text.length := by
  obtain ⟨data, const, hspelled, p, hp, hs, hdata⟩ := spelled_of_parse h
  have htext : text.length = (Bech32.encode a.network.hrp data const).length := by
    rw [← String.length_toList]
    rcases hspelled with heq | hcapital
    · rw [heq]
    · exact hcapital.length_eq
  rw [Bech32.encode_eq, List.length_append, List.length_cons, List.length_map, Bech32.length_body] at htext
  have hwritten := length_ofBytes p
  rw [(toBytes_eq_ok_iff hdata).mp hp] at hwritten
  have hargs := length_args_of_readPayload hs
  unfold args
  omega

end Address

/-! ## Names -/

namespace Identity

/-- How many texts are given. -/
def given (i : Identity) : Nat := [i.lockHash, i.address, i.publicKey, i.keyHash].countP Option.isSome

/-- The texts that name the lock of one key, which has the hash `hash`. -/
inductive Names (network : Network) (keyHash hash : Bytes) : Identity → Prop where
  | lockHash {text : String} (h : Hex.decode text = .ok hash) : Names network keyHash hash { lockHash := some text }
  | address {text : String} (h : Address.parse text (some network) = .ok ⟨network, System.sighashLock keyHash⟩) :
    Names network keyHash hash { address := some text }
  | publicKey {text : String} {b : Bytes} {key : PublicKey} (h : Hex.decode text = .ok b)
    (hkey : PublicKey.ofBytes b = .ok key) (hhash : key.keyHash = keyHash) :
    Names network keyHash hash { publicKey := some text }
  | keyHash {text : String} (h : Hex.decode text = .ok keyHash) : Names network keyHash hash { keyHash := some text }

variable {network : Network} {keyHash hash : Bytes} {i : Identity}

theorem ofKeyHash_eq (hsize : keyHash.length = System.keyHashSize) :
    ofKeyHash network keyHash = (System.sighashLock keyHash).hash.mapError .molecule := by
  rw [ofKeyHash, Address.ofKeyHash, if_pos hsize]
  exact ok_bind _ _

/-- Every name of a lock gives its hash. -/
theorem resolve_of_names (hsize : keyHash.length = System.keyHashSize)
    (hhash : (System.sighashLock keyHash).hash = .ok hash) (h : Names network keyHash hash i) :
    resolve network i = .ok hash := by
  have hlock : ofKeyHash network keyHash = .ok hash := by
    rw [ofKeyHash_eq hsize, hhash]
    rfl
  cases h with
  | lockHash h =>
    refine bind_eq_ok_iff.mpr ⟨hash, mapError_eq_ok_iff.mpr h, ?_⟩
    rw [if_pos (Script.length_of_hash hhash)]
    rfl
  | address h => exact bind_eq_ok_iff.mpr ⟨_, mapError_eq_ok_iff.mpr h, mapError_eq_ok_iff.mpr hhash⟩
  | publicKey h hkey hname =>
    refine bind_bind_eq_ok (mapError_eq_ok_iff.mpr h) (mapError_eq_ok_iff.mpr hkey) ?_
    rw [hname]
    exact hlock
  | keyHash h => exact bind_eq_ok_iff.mpr ⟨keyHash, mapError_eq_ok_iff.mpr h, hlock⟩

/-- An account is named by the hexadecimal hash of its key, or by an address. -/
theorem keyHash_of_hex {text : String} (hsize : keyHash.length = System.keyHashSize)
    (h : Hex.decode text = .ok keyHash) : Request.keyHash network text = .ok keyHash := by
  unfold Request.keyHash
  simp only [h, if_pos hsize]

theorem keyHash_of_parse {text : String} (hsize : keyHash.length = System.keyHashSize)
    (h : Address.parse text (some network) = .ok ⟨network, System.sighashLock keyHash⟩) :
    Request.keyHash network text = .ok keyHash := by
  obtain ⟨f, hf⟩ := Address.not_hex_of_parse h
  have hlock : (System.sighashLock keyHash).isSighash = true := by
    simp [Script.isSighash, System.sighashLock, hsize]
  unfold Request.keyHash
  simp only [hf]
  exact bind_eq_ok_iff.mpr ⟨_, mapError_eq_ok_iff.mpr h, if_pos hlock⟩

/-! ## Faults -/

theorem resolve_of_given (h : i.given ≠ 1) : resolve network i = .error .notOne := by
  unfold resolve
  split
  · exact absurd rfl h
  · exact absurd rfl h
  · exact absurd rfl h
  · exact absurd rfl h
  · rfl

theorem length_of_ofAddress {a : Address} (h : ofAddress a = .ok hash) : hash.length = System.hashSize :=
  Script.length_of_hash (mapError_eq_ok_iff.mp h)

theorem length_of_ofKeyHash (h : ofKeyHash network keyHash = .ok hash) : hash.length = System.hashSize := by
  obtain ⟨a, -, h⟩ := bind_eq_ok_iff.mp h
  exact length_of_ofAddress h

theorem length_of_resolve (h : resolve network i = .ok hash) : hash.length = System.hashSize := by
  unfold resolve at h
  split at h
  · obtain ⟨b, -, h⟩ := bind_eq_ok_iff.mp h
    split at h
    next hsize =>
      rw [← pure_eq_ok_iff.mp h]
      exact hsize
    next => cases h
  · obtain ⟨a, -, h⟩ := bind_eq_ok_iff.mp h
    exact length_of_ofAddress h
  · obtain ⟨b, -, h⟩ := bind_eq_ok_iff.mp h
    obtain ⟨key, -, h⟩ := bind_eq_ok_iff.mp h
    exact length_of_ofKeyHash h
  · obtain ⟨b, -, h⟩ := bind_eq_ok_iff.mp h
    exact length_of_ofKeyHash h
  · cases h

/-- The fault counts as bad input. -/
abbrev BadInput (f : IdentityFault) : Prop := Fault.kind f = .input

theorem faults_bytes (text : String) : Faults BadInput (bytes text) := faults_mapError (P := BadInput) (fun _ => rfl) _

theorem faults_ofKeyHash (network : Network) (keyHash : Bytes) : Faults BadInput (ofKeyHash network keyHash) := by
  intro f h
  by_cases hsize : keyHash.length = System.keyHashSize
  · -- The lock of one key is short enough.
    rw [ofKeyHash_eq hsize] at h
    obtain ⟨g, hg, -⟩ := mapError_eq_error_iff.mp h
    have hwide := (Script.hash_eq_error_iff.mp hg).2
    have hcode : (System.sighashLock keyHash).codeHash.length = 32 := rfl
    have hargs : (System.sighashLock keyHash).args.length = 20 := hsize
    unfold Script.size at hwide
    omega
  · rw [ofKeyHash, Address.ofKeyHash, if_neg hsize] at h
    cases h
    rfl

/-- Only the script of an address can be too long for its hash. -/
theorem resolve_eq_error {f : IdentityFault} (h : resolve network i = .error f) : BadInput f ∨
    f = .molecule .tooWide ∧ ∃ text a, i = { address := some text } ∧
      Address.parse text (some network) = .ok a ∧ 2 ^ 32 ≤ a.script.size := by
  unfold resolve at h
  split at h
  · left
    refine ((faults_bytes _).bind fun hash => ?_) f h
    split
    · exact faults_pure _
    · exact faults_throw rfl
  next text =>
    rcases bind_eq_error_iff.mp h with h | ⟨a, ha, h⟩
    · exact .inl (faults_mapError (P := BadInput) (fun _ => rfl) _ f h)
    · obtain ⟨g, hg, rfl⟩ := mapError_eq_error_iff.mp h
      obtain ⟨rfl, hwide⟩ := Script.hash_eq_error_iff.mp hg
      exact .inr ⟨rfl, text, a, rfl, mapError_eq_ok_iff.mp ha, hwide⟩
  · left
    refine ((faults_bytes _).bind fun b => ?_) f h
    exact (faults_mapError (P := BadInput) (fun _ => rfl) _).bind fun key => faults_ofKeyHash network _
  · exact .inl (((faults_bytes _).bind fun b => faults_ofKeyHash network b) f h)
  · cases h
    exact .inl rfl

/-- And then the text of the address has more characters than a word can count. -/
theorem length_of_tooWide {text : String} {a : Address} (h : Address.parse text (some network) = .ok a)
    (hwide : 2 ^ 32 ≤ a.script.size) : 2 ^ 32 ≤ text.length := by
  obtain ⟨_, _, _, -, -, -, hs⟩ := Address.parseChars_eq_ok_iff.mp h
  have hcode : a.script.codeHash.length = 32 := Address.length_of_readPayload hs
  have hlen := Address.length_of_parse h
  unfold Script.size at hwide
  unfold Address.args at hlen
  omega

/-! ## Agreement -/

/-- **All names of a lock agree.**  The lock of a key hash has one hash, and every name gives it: the key hash and the
hash of the lock in hexadecimal, with and without a mark, and the address in the full, the short and the deprecated
format.  The same key hash is read from all texts that may name an account.  Whatever texts are given, the answer is a
hash, or the fault counts as bad input, as it does if no text or several are given; but for an address of more
characters than a word can count, whose script may be too long to be hashed. -/
theorem resolve_agrees (network : Network) :
    (∀ keyHash : Bytes, keyHash.length = System.keyHashSize → ∃ hash, hash.length = System.hashSize ∧
      (System.sighashLock keyHash).hash = .ok hash ∧
      (∀ text ∈ [keyHash.hex, keyHash.hexText],
        resolve network { keyHash := some text } = .ok hash ∧ Request.keyHash network text = .ok keyHash) ∧
      (∀ text ∈ [Address.encode ⟨network, System.sighashLock keyHash⟩, Address.shortText network keyHash,
          Address.typeText network keyHash],
        resolve network { address := some text } = .ok hash ∧ Request.keyHash network text = .ok keyHash) ∧
      (∀ text ∈ [hash.hex, hash.hexText], resolve network { lockHash := some text } = .ok hash) ∧
      ∀ i, Names network keyHash hash i → resolve network i = .ok hash) ∧
    ∀ i : Identity, (i.given ≠ 1 → resolve network i = .error .notOne ∧ BadInput .notOne) ∧
      ((∃ hash, resolve network i = .ok hash ∧ hash.length = System.hashSize) ∨
        (∃ f, resolve network i = .error f ∧ BadInput f) ∨
        resolve network i = .error (.molecule .tooWide) ∧ ∃ text, i = { address := some text } ∧
          2 ^ 32 ≤ text.length) := by
  constructor
  · intro keyHash hsize
    obtain ⟨hash, hhash⟩ : ∃ hash, (System.sighashLock keyHash).hash = .ok hash := by
      have hcode : (System.sighashLock keyHash).codeHash.length = 32 := rfl
      have hargs : (System.sighashLock keyHash).args.length = 20 := hsize
      refine Script.exists_hash_iff.mpr ?_
      unfold Script.size
      omega
    have hnames : ∀ i, Names network keyHash hash i → resolve network i = .ok hash := fun i =>
      resolve_of_names hsize hhash
    have haddress : ∀ text, Address.parse text (some network) = .ok ⟨network, System.sighashLock keyHash⟩ →
        resolve network { address := some text } = .ok hash ∧ Request.keyHash network text = .ok keyHash :=
      fun text h => ⟨hnames _ (.address h), keyHash_of_parse hsize h⟩
    have hkey : ∀ text, Hex.decode text = .ok keyHash →
        resolve network { keyHash := some text } = .ok hash ∧ Request.keyHash network text = .ok keyHash :=
      fun text h => ⟨hnames _ (.keyHash h), keyHash_of_hex hsize h⟩
    refine ⟨hash, Script.length_of_hash hhash, hhash, ?_, ?_, ?_, hnames⟩
    · rw [List.forall_mem_cons, List.forall_mem_singleton]
      exact ⟨hkey _ (Hex.decode_hex keyHash), hkey _ (Hex.decode_hexText keyHash)⟩
    · rw [List.forall_mem_cons, List.forall_mem_cons, List.forall_mem_singleton]
      exact ⟨haddress _ (Address.parse_fullText network keyHash), haddress _ (Address.parse_shortText hsize),
        haddress _ (Address.parse_typeText network keyHash)⟩
    · rw [List.forall_mem_cons, List.forall_mem_singleton]
      exact ⟨hnames _ (.lockHash (Hex.decode_hex hash)), hnames _ (.lockHash (Hex.decode_hexText hash))⟩
  · intro i
    refine ⟨fun h => ⟨resolve_of_given h, rfl⟩, ?_⟩
    cases hresolve : resolve network i with
    | ok hash => exact .inl ⟨hash, rfl, length_of_resolve hresolve⟩
    | error f =>
      rcases resolve_eq_error hresolve with htold | ⟨rfl, text, a, hi, ha, hwide⟩
      · exact .inr (.inl ⟨f, rfl, htold⟩)
      · exact .inr (.inr ⟨rfl, text, hi, length_of_tooWide ha hwide⟩)

theorem resolve_agrees_sample :
    Address.Sample.address.args.length = System.keyHashSize ∧
    Address.parse Address.Sample.short (some .mainnet) = .ok Address.Sample.address ∧
    (∃ hash, hash.length = System.hashSize ∧ resolve .mainnet { address := some Address.Sample.short } = .ok hash ∧
      resolve .mainnet { keyHash := some Address.Sample.address.args.hexText } = .ok hash ∧
      resolve .mainnet { lockHash := some hash.hex } = .ok hash ∧
      Request.keyHash .mainnet (Address.typeText .mainnet Address.Sample.address.args) =
        .ok Address.Sample.address.args) ∧
    ({ } : Identity).given ≠ 1 ∧ resolve .mainnet { } = .error .notOne := by
  obtain ⟨hagree, hfault⟩ := resolve_agrees .mainnet
  have hsize : Address.Sample.address.args.length = System.keyHashSize := by decide
  have hparse : Address.parse Address.Sample.short (some .mainnet) = .ok Address.Sample.address := by decide +kernel
  obtain ⟨hash, hlen, -, hkey, haddress, hlock, hnames⟩ := hagree _ hsize
  have hnone : ({ } : Identity).given ≠ 1 := by decide
  exact ⟨hsize, hparse, ⟨hash, hlen, hnames _ (.address hparse), (hkey _ (by simp)).1, hlock _ (by simp),
    (haddress _ (by simp)).2⟩, hnone, ((hfault _).1 hnone).1⟩

end Identity

end CellPurse
