import CellPurse.Proofs.Address.RoundTrip

/-!
# CellPurse.Proofs.Address.Mistyping — one wrong character

No text that differs from that of an address in one character is an address.  The wrong character may stand in the
prefix, where it could turn one network into the other, it may be the separator, or a symbol.

* `lower_set`: a small letter of the prefix is left, so that a text that is read has no capitals;
* `eq_network_of_known`: the same symbols do not go with both prefixes, which differ in one symbol;
* `eq_of_set_symbol`: two lists of symbols that both give one of the constants do not differ in one place;
* **`parse_mistyped`**: the main result.
-/

namespace CellPurse.Address

open Text Bech32

/-! ## Capitals -/

/-- One of the letters `c` and `k` is left, and what does not mix cases has no capitals then. -/
theorem lower_set (a : Address) (i : Nat) (c : Char) (hmix : Case.isMixed (a.encodeChars.set i c) = false) :
    Case.lower (a.encodeChars.set i c) = a.encodeChars.set i c := by
  obtain ⟨rest, hrest⟩ : ∃ rest, a.encodeChars = 'c' :: 'k' :: rest := by
    rw [encodeChars, encode_eq]
    cases a.network <;> exact ⟨_, rfl⟩
  have hletter : 'c' ∈ a.encodeChars.set i c ∨ 'k' ∈ a.encodeChars.set i c := by
    rw [hrest]
    cases i with
    | zero => exact .inr (List.mem_cons_of_mem _ List.mem_cons_self)
    | succ i => exact .inl List.mem_cons_self
  rcases hletter with hmem | hmem
  · exact Case.lower_of_changesUpper hmix hmem (by decide)
  · exact Case.lower_of_changesUpper hmix hmem (by decide)

/-! ## Symbols -/

/-- The prefixes of the networks differ in the last of their symbols alone. -/
theorem eq_network_of_known {n n' : Network} {vs : List (BitVec 30)}
    (h : polymod (expand n.hrp ++ vs) = plainConst ∨ polymod (expand n.hrp ++ vs) = modifiedConst)
    (h' : polymod (expand n'.hrp ++ vs) = plainConst ∨ polymod (expand n'.hrp ++ vs) = modifiedConst) : n = n' := by
  have hmain : expand Network.mainnet.hrp ++ vs = [3, 3, 3, 0, 3, 11] ++ 2#30 :: vs := rfl
  have htest : expand Network.testnet.hrp ++ vs = [3, 3, 3, 0, 3, 11] ++ 20#30 :: vs := rfl
  have hne : 2#30 ≠ 20#30 := by decide
  cases n <;> cases n' <;> simp only [hmain, htest] at h h'
  · rfl
  · exact absurd (eq_of_known (by decide) (by decide) h h') hne
  · exact absurd (eq_of_known (by decide) (by decide) h' h) hne
  · rfl

/-- Two lists of symbols behind the same symbols, both of a text, do not differ in one place. -/
theorem eq_of_set_symbol {u : List (BitVec 30)} {vs : List Nat} {j w : Nat} (hj : j < vs.length)
    (hvs : ∀ v ∈ vs, v < 32) (hw : w < 32)
    (h : polymod (u ++ vs.map (BitVec.ofNat 30)) = plainConst ∨ polymod (u ++ vs.map (BitVec.ofNat 30)) = modifiedConst)
    (h' : polymod (u ++ (vs.set j w).map (BitVec.ofNat 30)) = plainConst ∨
      polymod (u ++ (vs.set j w).map (BitVec.ofNat 30)) = modifiedConst) : w = vs[j] := by
  have hsplit : vs = vs.take j ++ vs[j] :: vs.drop (j + 1) := by simp
  have hset : vs.set j w = vs.take j ++ w :: vs.drop (j + 1) := by
    rw [List.set_eq_take_append_cons_drop, if_pos hj]
  have hold : vs[j] < 32 := hvs _ (List.getElem_mem hj)
  rw [hset, List.map_append, List.map_cons, ← List.append_assoc] at h'
  rw [hsplit, List.map_append, List.map_cons, ← List.append_assoc] at h
  have heq := eq_of_known (by rwa [toNat_ofNat_symbol hw]) (by rwa [toNat_ofNat_symbol hold]) h' h
  have hnat := congrArg BitVec.toNat heq
  rwa [toNat_ofNat_symbol hw, toNat_ofNat_symbol hold] at hnat

/-! ## Texts -/

variable {n n' : Network} {data data' : List Nat} {const const' : BitVec 30} {c : Char}

theorem length_hrp (n : Network) : n.hrp.length = 3 := by cases n <;> rfl

theorem known_body {hrp : List Char} (hw : Writable hrp data const) :
    polymod (expand hrp ++ (body hrp data const).map (BitVec.ofNat 30)) = plainConst ∨
      polymod (expand hrp ++ (body hrp data const).map (BitVec.ofNat 30)) = modifiedConst := by
  rw [polymod_body]
  exact hw.const

/-- If nothing after the prefix changes, neither does the prefix. -/
theorem eq_network_of_body (hw : Writable n.hrp data const) (hw' : Writable n'.hrp data' const')
    (h : (body n.hrp data const).map char = (body n'.hrp data' const').map char) : n = n' := by
  have hbody := map_char_inj (fun v => hw.lt_of_mem_body) (fun v => hw'.lt_of_mem_body) h
  have hknown := known_body hw
  rw [hbody] at hknown
  exact eq_network_of_known hknown (known_body hw')

/-- Behind the same prefix no single symbol changes. -/
theorem eq_of_set_body {hrp : List Char} {j : Nat} (hj : j < (body hrp data const).length)
    (hw : Writable hrp data const) (hw' : Writable hrp data' const')
    (h : ((body hrp data const).map char).set j c = (body hrp data' const').map char) :
    c = char (body hrp data const)[j] := by
  have hchars : ∀ v ∈ body hrp data const, v < 32 := fun v => hw.lt_of_mem_body
  have hlen : (body hrp data const).length = (body hrp data' const').length := by
    simpa using congrArg List.length h
  have hj' : j < (body hrp data' const').length := by omega
  have hlt : (body hrp data' const')[j] < 32 := hw'.lt_of_mem_body (List.getElem_mem hj')
  have hc : c = char (body hrp data' const')[j] := by
    have hat := congrArg (fun cs => cs[j]?) h
    simpa [hj, hj'] using hat
  have hset : (body hrp data const).set j (body hrp data' const')[j] = body hrp data' const' := by
    have hmem : ∀ v ∈ (body hrp data const).set j (body hrp data' const')[j], v < 32 := by
      intro v hv
      rcases List.mem_or_eq_of_mem_set hv with hv | rfl
      · exact hchars v hv
      · exact hlt
    refine map_char_inj hmem (fun v => hw'.lt_of_mem_body) ?_
    rw [List.map_set, ← hc, h]
  have hknown := known_body hw'
  rw [← hset] at hknown
  rw [hc, eq_of_set_symbol hj hchars hlt (known_body hw) hknown]

/-- Two small texts of addresses do not differ in one place. -/
theorem eq_of_encode_set {i : Nat} (hi : i < (Bech32.encode n.hrp data const).length)
    (hw : Writable n.hrp data const) (hw' : Writable n'.hrp data' const')
    (h : (Bech32.encode n.hrp data const).set i c = Bech32.encode n'.hrp data' const') :
    c = (Bech32.encode n.hrp data const)[i] := by
  simp only [encode_eq] at h hi ⊢
  rcases Nat.lt_trichotomy i 3 with hplace | rfl | hplace
  · -- In the prefix.
    rw [List.set_append_left _ _ (by rwa [length_hrp])] at h
    obtain ⟨hhrp, hrest⟩ := List.append_inj h (by rw [List.length_set, length_hrp, length_hrp])
    obtain rfl := eq_network_of_body hw hw' (List.cons.inj hrest).2
    rw [List.getElem_append_left (by rwa [length_hrp])]
    have hat := congrArg (fun cs => cs[i]?) hhrp
    simpa [length_hrp, hplace] using hat
  · -- The separator, which stands behind three characters in both texts.
    rw [List.set_append_right _ _ (by rw [length_hrp])] at h
    have hrest := List.append_inj_right h (by rw [length_hrp, length_hrp])
    simp only [length_hrp, Nat.sub_self, List.set_cons_zero] at hrest
    rw [List.getElem_append_right (by rw [length_hrp])]
    simpa only [length_hrp, Nat.sub_self, List.getElem_cons_zero] using (List.cons.inj hrest).1
  · -- A symbol.
    obtain ⟨j, rfl⟩ : ∃ j, i = 3 + (j + 1) := ⟨i - 4, by omega⟩
    rw [List.set_append_right _ _ (by rw [length_hrp]; omega)] at h
    obtain ⟨hhrp, hrest⟩ := List.append_inj h (by rw [length_hrp, length_hrp])
    obtain rfl : n = n' := Option.some.inj (by rw [← Network.ofHrp?_hrp n, hhrp, Network.ofHrp?_hrp])
    simp only [length_hrp, Nat.add_sub_cancel_left, List.set_cons_succ, List.cons.injEq, true_and] at hrest
    have hj : j < (body n.hrp data const).length := by
      simp only [List.length_append, List.length_cons, List.length_map, length_hrp] at hi
      omega
    rw [List.getElem_append_right (by rw [length_hrp]; omega), eq_of_set_body hj hw hw' hrest]
    simp [length_hrp]

theorem parse_set_eq_error (a : Address) {i : Nat} (hi : i < a.encode.toList.length)
    (hc : c ≠ a.encode.toList[i]) (expected : Option Network) :
    ∃ f, parse (String.ofList (a.encode.toList.set i c)) expected = .error f := by
  have htext : a.encode.toList = a.encodeChars := String.toList_ofList
  cases hparse : parse (String.ofList (a.encode.toList.set i c)) expected with
  | error f => exact ⟨f, rfl⟩
  | ok b =>
    rw [parse, String.toList_ofList, htext] at hparse
    obtain ⟨data, const, p, hdecode, -⟩ := parseChars_eq_ok_iff.mp hparse
    obtain ⟨hw, hmix, hlower⟩ := lower_of_decode hdecode
    rw [lower_set a i c hmix] at hlower
    simp only [htext] at hi hc
    exact absurd (eq_of_encode_set hi (writable_encode a) hw hlower) hc

/-- **One wrong character is noticed**: of the texts that differ from that of an address in one character at most, its
own text alone is read. -/
theorem parse_mistyped (a : Address) (h : a.script.codeHash.length = System.hashSize) (i : Nat)
    (hi : i < a.encode.toList.length) (c : Char) :
    (c ≠ a.encode.toList[i] → ∀ expected, ∃ f : AddressFault,
      parse (String.ofList (a.encode.toList.set i c)) expected = .error f) ∧
    (c = a.encode.toList[i] → parse (String.ofList (a.encode.toList.set i c)) = .ok a) := by
  constructor
  · intro hc expected
    exact parse_set_eq_error a hi hc expected
  · rintro rfl
    rw [List.set_getElem_self, String.ofList_toList]
    exact parse_of_encode h nofun

theorem parse_mistyped_sample :
    Sample.address.script.codeHash.length = System.hashSize ∧ Sample.address.encode.toList[2]? = some 'b' ∧
    (∃ f : AddressFault, parse (String.ofList (Sample.address.encode.toList.set 2 't')) none = .error f) ∧
    parse (String.ofList (Sample.address.encode.toList.set 2 'b')) = .ok Sample.address := by
  have hlen : Sample.address.script.codeHash.length = System.hashSize := by decide
  have hat : Sample.address.encode.toList[2]? = some 'b' := by decide +kernel
  obtain ⟨hi, hb⟩ := List.getElem?_eq_some_iff.mp hat
  have hc : 't' ≠ Sample.address.encode.toList[2] := by
    rw [hb]
    decide
  exact ⟨hlen, hat, (parse_mistyped Sample.address hlen 2 hi 't').1 hc none,
    (parse_mistyped Sample.address hlen 2 hi 'b').2 hb.symm⟩

end CellPurse.Address
