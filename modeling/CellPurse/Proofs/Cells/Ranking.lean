import CellPurse.Cells.Ranking
import CellPurse.Proofs.Address.RoundTrip
import CellPurse.Proofs.Cells.Snapshot
import CellPurse.Proofs.Keys.Password
import CellPurse.Proofs.Ledger.Preimage

/-!
# CellPurse.Proofs.Cells.Ranking — what a ranked address denotes

A ranking gives a lock the address of the script that its index lists under the hash of the lock.  Nothing asks of such
a script that its code hash has the size of a hash, and where it has another one the text names another script, or none.

* `Index.get?_of_byHash`: what is found under a hash is the last of the scripts with this hash;
* `Address.parse_encode_iff`: the text of a script is read as any script with the same payload whose code hash has the
  size of a hash;
* `Script.Collide`: two binary forms with one hash;
* `Ranking.address_denotes`: a ranked address is the address of the ranked lock if the code hash of the script has the
  size of a hash, and without collisions only then;
* `Ranking.address_of_short_code`: an address that is refused, and one of another lock.
-/

namespace CellPurse

open Outcome

/-! ## Scripts by their hashes -/

namespace Index

theorem get?_foldlM {scripts : List Script} {before locks : Assoc Bytes Script}
    (h : scripts.foldlM (fun m s => do
      let k ← s.hash
      pure (Assoc.set k s m)) before = .ok locks) (k : Bytes) :
    locks.get? k = (scripts.reverse.find? fun s => s.hash.toOption = some k).or (before.get? k) := by
  induction scripts generalizing before with
  | nil =>
    cases h
    rfl
  | cons s r ih =>
    rw [List.foldlM_cons] at h
    obtain ⟨next, hnext, h⟩ := bind_eq_ok_iff.mp h
    obtain ⟨b, hb, hset⟩ := bind_eq_ok_iff.mp hnext
    obtain rfl := pure_eq_ok_iff.mp hset
    have hkey : s.hash.toOption = some k ↔ b = k := by
      rw [hb]
      exact Option.some_inj
    rw [ih h, Assoc.get?_set, List.reverse_cons, List.find?_append, Option.or_assoc, List.find?_singleton]
    simp only [decide_eq_true_eq, hkey]
    split <;> rfl

/-- Under a hash the last script with this hash is found. -/
theorem get?_of_byHash {scripts : List Script} {locks : Assoc Bytes Script} (h : byHash scripts = .ok locks)
    (k : Bytes) : locks.get? k = scripts.reverse.find? fun s => s.hash.toOption = some k := by
  rw [get?_foldlM h k]
  exact Option.or_none

theorem eq_some_of_byHash {scripts : List Script} {locks : Assoc Bytes Script} (h : byHash scripts = .ok locks)
    {k : Bytes} {s : Script} (hs : locks.get? k = some s) : s ∈ scripts ∧ s.hash = .ok k := by
  rw [get?_of_byHash h] at hs
  have hfound := List.find?_some hs
  exact ⟨List.mem_reverse.mp (List.mem_of_find?_eq_some hs), toOption_eq_some_iff.mp (of_decide_eq_true hfound)⟩

theorem eq_none_iff_of_byHash {scripts : List Script} {locks : Assoc Bytes Script} (h : byHash scripts = .ok locks)
    {k : Bytes} : locks.get? k = none ↔ ∀ s ∈ scripts, s.hash ≠ .ok k := by
  rw [get?_of_byHash h, List.find?_eq_none]
  simp only [List.mem_reverse, decide_eq_true_eq, toOption_eq_some_iff, ne_eq]

end Index

/-! ## Scripts and their texts -/

namespace Address

theorem readPayload_payload_iff {s t : Script} : readPayload (payload s) Bech32.modifiedConst = .ok t ↔
    t.codeHash.length = System.hashSize ∧ payload t = payload s := by
  constructor
  · exact fun h => ⟨length_of_readPayload h, (readPayload_full h).2⟩
  · rintro ⟨hlen, hpayload⟩
    rw [← hpayload]
    exact readPayload_payload hlen

/-- The text of a script is read as any script with the same payload whose code hash has the size of a hash. -/
theorem parse_encode_iff {a b : Address} : parse a.encode (some a.network) = .ok b ↔
    b.network = a.network ∧ b.script.codeHash.length = System.hashSize ∧ payload b.script = payload a.script := by
  rw [parse, encode, String.toList_ofList, parseChars_eq_ok_iff]
  have hbytes : toBytes (ofBytes (payload a.script)) = .ok (payload a.script) :=
    (toBytes_eq_ok_iff fun _ => lt_of_mem_ofBytes).mpr rfl
  constructor
  · rintro ⟨data, const, p, hdecode, hnetwork, hp, hs⟩
    obtain ⟨-, rfl, rfl⟩ : a.network.hrp = b.network.hrp ∧ ofBytes (payload a.script) = data ∧
        Bech32.modifiedConst = const := by
      simpa using (decode_encodeChars a).symm.trans hdecode
    obtain rfl := Except.ok.inj (hbytes.symm.trans hp)
    exact ⟨(hnetwork _ rfl).symm, readPayload_payload_iff.mp hs⟩
  · rintro ⟨hnetwork, hs⟩
    refine ⟨_, _, _, ?_, fun e he => ?_, hbytes, readPayload_payload_iff.mpr hs⟩
    · rw [hnetwork]
      exact decode_encodeChars a
    · rw [hnetwork]
      exact (Option.some.inj he).symm

end Address

namespace Script

/-- The binary forms of two scripts differ and have one hash. -/
def Collide (s t : Script) : Prop :=
  ∃ b c, s.serialize = .ok b ∧ t.serialize = .ok c ∧ b ≠ c ∧ Hash.chain b = Hash.chain c

/-- Scripts with one hash are one script, or collide. -/
theorem eq_or_collide {s t : Script} {k : Bytes} (hs : s.hash = .ok k) (ht : t.hash = .ok k) : s = t ∨ s.Collide t := by
  obtain ⟨b, hb, hbk⟩ := bind_eq_ok_iff.mp hs
  obtain ⟨c, hc, hck⟩ := bind_eq_ok_iff.mp ht
  by_cases hbc : b = c
  · subst hbc
    exact .inl (unambiguous_script hb hc)
  · exact .inr ⟨b, c, hb, hc, hbc, (pure_eq_ok_iff.mp hbk).trans (pure_eq_ok_iff.mp hck).symm⟩

end Script

/-! ## Texts of files -/

/-- A file is read as the text that it was written from, with the ends of its lines made plain. -/
theorem Entry.text?_utf8 (t : String) : Entry.text? (Seed.utf8 t) =
    some (String.ofList (Text.Lines.plain t.toList)) := by
  have hbytes : ByteArray.mk (Seed.utf8 t).toArray = t.toByteArray := by
    have hlist : t.toUTF8.toList = t.toUTF8.data.toList := Seed.toList_loop t.toUTF8 0 []
    rw [Seed.utf8, hlist]
    rfl
  have htext : String.fromUTF8? t.toByteArray = some t := dif_pos t.isValidUTF8
  rw [text?, hbytes, htext]
  rfl

/-- The document of a text is the one that its characters spell. -/
theorem Snapshot.document_ofList (cs : List Char) : document (Seed.utf8 (String.ofList cs)) =
    (Json.ofChars (Text.Lines.plain cs)).mapError .text := by
  unfold document
  rw [Entry.text?_utf8, String.toList_ofList]
  dsimp only
  rw [Json.parse, String.toList_ofList]

/-- The records of a text are those of its document. -/
theorem Snapshot.recordsOf_ofList (cs : List Char) : recordsOf (Seed.utf8 (String.ofList cs)) =
    (Json.ofChars (Text.Lines.plain cs)).mapError .text >>= fun v => (ofJson v).mapError .document := by
  rw [recordsOf, document_ofList]

/-! ## Ranked locks -/

namespace Ranking

variable {content : Bytes} {i : Index} {network : Network} {n : Int} {holder : Holder}

theorem address_eq_of_mem (h : holder ∈ holders network i n) :
    holder.address = (i.locks.get? holder.lockHash).map fun s => Address.encode ⟨network, s⟩ := by
  obtain ⟨holding, hholding, rfl⟩ := List.mem_map.mp h
  obtain ⟨e, -, rfl⟩ := List.mem_map.mp hholding
  rfl

/-- **A ranked address denotes the ranked lock, if the code hash of its script has the size of a hash.**  A lock in the
ranking of an index file has an address exactly if the file lists a script with this hash, and the address is the text
of such a script.  Where the code hash of the script has the size of a hash, the text is read as the address of the
lock; and where an address that the text is read as has the hash of the lock, the code hash has the size of a hash, or
two scripts collide. -/
theorem address_denotes (h : Snapshot.load content = .ok i) (network : Network) (n : Int) :
    ∃ cells scripts, Snapshot.recordsOf content = .ok (cells, scripts) ∧ ∀ holder ∈ holders network i n,
      (holder.address = none ↔ ∀ s ∈ scripts, s.hash ≠ .ok holder.lockHash) ∧
      ∀ text, holder.address = some text → ∃ s ∈ scripts, s.hash = .ok holder.lockHash ∧
        text = Address.encode ⟨network, s⟩ ∧
        (s.codeHash.length = System.hashSize → ∃ a, Address.parse text (some network) = .ok a ∧
          a.network = network ∧ a.lockHash = .ok holder.lockHash) ∧
        ∀ a, Address.parse text (some network) = .ok a → a.lockHash = .ok holder.lockHash →
          s.codeHash.length = System.hashSize ∨ s.Collide a.script := by
  obtain ⟨⟨cells, scripts⟩, hrecords, hindex⟩ := bind_eq_ok_iff.mp h
  obtain ⟨locks, hlocks, hi⟩ := bind_eq_ok_iff.mp (mapError_eq_ok_iff.mp hindex)
  obtain rfl := pure_eq_ok_iff.mp hi
  refine ⟨cells, scripts, hrecords, fun holder hmem => ?_⟩
  have haddress := address_eq_of_mem hmem
  refine ⟨?_, fun text htext => ?_⟩
  · rw [haddress, Option.map_eq_none_iff]
    exact Index.eq_none_iff_of_byHash hlocks
  · rw [haddress] at htext
    obtain ⟨s, hs, rfl⟩ := Option.map_eq_some_iff.mp htext
    obtain ⟨hlisted, hhash⟩ := Index.eq_some_of_byHash hlocks hs
    refine ⟨s, hlisted, hhash, rfl, fun hlen => ?_, fun a ha hlock => ?_⟩
    · exact ⟨⟨network, s⟩, Address.parse_encode_iff.mpr ⟨rfl, hlen, rfl⟩, rfl, hhash⟩
    · obtain ⟨-, hlen, -⟩ := Address.parse_encode_iff.mp ha
      rcases Script.eq_or_collide hhash hlock with rfl | hcollide
      · exact .inl hlen
      · exact .inr hcollide

/-! ## Files with one lock -/

namespace Sample

/-- A cell of a lock. -/
def cell (lockHash : Bytes) : LiveCell where
  txHash := [0]
  outputIndex := 0
  txIndex := 1
  number := 5
  lockHash := lockHash
  capacity := 100

/-- The text of a file with this cell and one script. -/
def text (lockHash : Bytes) (s : Script) : List Char :=
  "\x7b\"cells\": [\x7b\"tx_hash\": \"0x00\", ".toList ++ "\"output_index\": 0, \"tx_index\": 1, ".toList ++
  "\"number\": 5, \"lock_hash\": \"0x".toList ++ lockHash.hexDigits ++ "\", \"capacity\": 100\x7d], ".toList ++
  "\"lock_scripts\": [\x7b\"code_hash\": \"0x".toList ++ s.codeHash.hexDigits ++ "\", \"hash_type\": \"".toList ++
  s.hashType.name.toList ++ "\", \"args\": \"0x".toList ++ s.args.hexDigits ++ "\"\x7d]\x7d".toList

/-- The file. -/
def file (lockHash : Bytes) (s : Script) : Bytes := Seed.utf8 (String.ofList (text lockHash s))

/-- The lock of a key. -/
def lock : Script := System.sighashLock (List.replicate 20 1)

/-- Its hash. -/
def lockHash : Bytes :=
  [0xbe, 0x1a, 0x32, 0x10, 0x3e, 0x16, 0x8e, 0x4e, 0x38, 0x2d, 0xca, 0xf2, 0x94, 0xc7, 0x74, 0x3c, 0x7a, 0x48, 0x2c,
    0x02, 0xa1, 0xb3, 0xb8, 0x65, 0x62, 0x62, 0x07, 0x13, 0x33, 0xf1, 0xcf, 0xf7]

/-- A script without a code hash. -/
def blank : Script := ⟨[], .type, []⟩

/-- Its hash. -/
def blankHash : Bytes :=
  [0x1c, 0x2c, 0x82, 0x38, 0x80, 0x62, 0x61, 0xe2, 0xb0, 0x08, 0xb0, 0x40, 0x91, 0xc6, 0x30, 0x82, 0x44, 0x3c, 0xf5,
    0x10, 0x49, 0x8d, 0x83, 0x48, 0xae, 0xc6, 0xaa, 0xe6, 0x25, 0xa7, 0x18, 0x91]

/-- A script whose code hash lacks a byte. -/
def short : Script := ⟨List.replicate 31 7, .type, [0]⟩

/-- Its hash. -/
def shortHash : Bytes :=
  [0xce, 0xeb, 0xbb, 0x31, 0x8d, 0xd2, 0x3c, 0x4f, 0xc3, 0xf8, 0x89, 0xae, 0x70, 0xce, 0x82, 0x7c, 0x0e, 0x58, 0xd2,
    0xbe, 0x36, 0xf7, 0x01, 0xd2, 0xc7, 0x58, 0x37, 0xd0, 0x45, 0xc0, 0x29, 0x6e]

/-- What its text is read as: the hash type has become a part of the code hash. -/
def shifted : Script := ⟨List.replicate 31 7 ++ [1], .data, []⟩

end Sample

/-- A file with one cell and its script ranks this lock first. -/
theorem exists_holder_of_one {c : LiveCell} {s : Script} (hrecords : Snapshot.recordsOf content = .ok ([c], [s]))
    (hhash : s.hash = .ok c.lockHash) (network : Network) :
    ∃ i, Snapshot.load content = .ok i ∧ ∃ holder ∈ holders network i 1, holder.lockHash = c.lockHash ∧
      holder.address = some (Address.encode ⟨network, s⟩) := by
  have hlocks : Index.byHash [s] = .ok [(c.lockHash, s)] := by
    unfold Index.byHash
    rw [List.foldlM_cons, hhash]
    rfl
  have hindex : Index.ofCells [c] [s] = .ok ⟨[c], [(c.lockHash, s)]⟩ := by
    refine bind_eq_ok_iff.mpr ⟨_, hlocks, ?_⟩
    rw [List.mergeSort_singleton]
    rfl
  have hfound : Assoc.get? c.lockHash [(c.lockHash, s)] = some s := if_pos rfl
  refine ⟨_, bind_eq_ok_iff.mpr ⟨_, hrecords, mapError_eq_ok_iff.mpr hindex⟩, ?_⟩
  unfold holders Index.top Index.totals
  rw [List.foldl_cons, List.foldl_nil, Index.credit, Assoc.set, List.mergeSort_singleton]
  exact ⟨_, List.mem_singleton_self _, rfl, congrArg (Option.map _) hfound⟩

theorem address_denotes_sample : ∃ i, Snapshot.load (Sample.file Sample.lockHash Sample.lock) = .ok i ∧
    ∃ holder ∈ holders .testnet i 1, ∃ text a, holder.address = some text ∧
      Address.parse text (some .testnet) = .ok a ∧ a.lockHash = .ok holder.lockHash := by
  have hrecords : Snapshot.recordsOf (Sample.file Sample.lockHash Sample.lock) =
      .ok ([Sample.cell Sample.lockHash], [Sample.lock]) := by
    rw [Sample.file, Snapshot.recordsOf_ofList]
    decide +kernel
  have hhash : Sample.lock.hash = .ok Sample.lockHash := by decide +kernel
  obtain ⟨i, hload, holder, hmem, -, haddress⟩ := exists_holder_of_one hrecords hhash .testnet
  obtain ⟨cells, scripts, hparts, hdenotes⟩ := address_denotes hload .testnet 1
  obtain ⟨s, hs, -, -, hread, -⟩ := (hdenotes holder hmem).2 _ haddress
  obtain ⟨-, rfl⟩ := Prod.mk.inj (Except.ok.inj (hrecords.symm.trans hparts))
  obtain rfl := List.mem_singleton.mp hs
  obtain ⟨a, ha, -, hlock⟩ := hread rfl
  exact ⟨i, hload, holder, hmem, _, a, haddress, ha, hlock⟩

/-- **A code hash of another size makes an address that is refused, or one of another lock.** -/
theorem address_of_short_code :
    (∃ i, Snapshot.load (Sample.file Sample.blankHash Sample.blank) = .ok i ∧ ∃ holder ∈ holders .testnet i 1,
      ∃ text, holder.address = some text ∧ Address.parse text (some .testnet) = .error (.fullTooShort 2)) ∧
    ∃ i, Snapshot.load (Sample.file Sample.shortHash Sample.short) = .ok i ∧ ∃ holder ∈ holders .testnet i 1,
      ∃ text a, holder.address = some text ∧ Address.parse text (some .testnet) = .ok a ∧
        a.lockHash ≠ .ok holder.lockHash := by
  constructor
  · have hrecords : Snapshot.recordsOf (Sample.file Sample.blankHash Sample.blank) =
        .ok ([Sample.cell Sample.blankHash], [Sample.blank]) := by
      rw [Sample.file, Snapshot.recordsOf_ofList]
      decide +kernel
    have hhash : Sample.blank.hash = .ok Sample.blankHash := by decide +kernel
    have hparse : Address.parse (Address.encode ⟨.testnet, Sample.blank⟩) (some .testnet) =
        .error (.fullTooShort 2) := by decide +kernel
    obtain ⟨i, hload, holder, hmem, -, haddress⟩ := exists_holder_of_one hrecords hhash .testnet
    exact ⟨i, hload, holder, hmem, _, haddress, hparse⟩
  · have hrecords : Snapshot.recordsOf (Sample.file Sample.shortHash Sample.short) =
        .ok ([Sample.cell Sample.shortHash], [Sample.short]) := by
      rw [Sample.file, Snapshot.recordsOf_ofList]
      decide +kernel
    have hhash : Sample.short.hash = .ok Sample.shortHash := by decide +kernel
    have hother : Sample.shifted.hash ≠ .ok Sample.shortHash := by decide +kernel
    have hparse : Address.parse (Address.encode ⟨.testnet, Sample.short⟩) (some .testnet) =
        .ok ⟨.testnet, Sample.shifted⟩ := Address.parse_encode_iff.mpr ⟨rfl, rfl, rfl⟩
    obtain ⟨i, hload, holder, hmem, hlock, haddress⟩ := exists_holder_of_one hrecords hhash .testnet
    refine ⟨i, hload, holder, hmem, _, _, haddress, hparse, ?_⟩
    rw [hlock]
    exact hother

end Ranking

end CellPurse
