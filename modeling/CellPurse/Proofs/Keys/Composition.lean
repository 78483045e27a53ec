import CellPurse.Proofs.Keys.Route

/-!
# CellPurse.Proofs.Keys.Composition — paths that go on

A path may be left at any slash: the rest of it, taken from the key that is reached there, leads to the same key, or
ends with the same fault.  On the way each component that is not empty is one level, whatever it spells.

* `Path.levels`: how many levels a path goes down, by what stands between its slashes; `length_of_components`: that many
  components are taken;
* `ExtendedKey.depth_of_child`, `depth_of_foldlM`: a child is one level below its parent, and the last of a line of
  children as many as there are;
* `ExtendedKey.derive_composes`: paths compose, and lead down by their levels.
-/

namespace CellPurse

open Outcome Text

theorem Text.Split.pieces_eq_splitOn (sep : Char) (cs : List Char) : pieces sep cs = cs.splitOn sep := by
  induction cs with
  | nil => rfl
  | cons c r ih =>
    rw [List.splitOn_cons_eq_if_modifyHead, pieces, ← ih]
    by_cases hc : c = sep
    · rw [if_pos hc, if_pos (beq_iff_eq.mpr hc)]
    · obtain ⟨w, ws, hw⟩ := List.exists_cons_of_ne_nil (pieces_ne_nil sep r)
      rw [if_neg hc, if_neg (mt beq_iff_eq.mp hc), hw]
      rfl

/-- How many levels a path goes down: what stands between its slashes, after the first of them, unless it is empty. -/
def Path.levels (path : String) : Nat := (path.toList.splitOn '/').tail.countP fun w => w ≠ []

theorem Path.length_of_components {path : String} {ws : List (List Char)} (h : components path.toList = .ok ws) :
    ws.length = levels path := by
  unfold components at h
  split at h
  · obtain rfl := Except.ok.inj h
    rw [← List.countP_eq_length_filter, levels, Split.pieces_eq_splitOn]
    refine List.countP_congr fun w _ => ?_
    cases w <;> simp
  · cases h

namespace ExtendedKey

variable {k c : ExtendedKey}

theorem depth_of_child {n : Int} (h : k.child n = .ok c) : c.depth = k.depth + 1 := by
  unfold child at h
  split at h
  · cases h
  · -- the digest is named: nothing here evaluates it
    generalize Hash.Hmac512.tag k.chainCode (k.childData n.toNat) = tag at h
    dsimp only at h
    split at h
    · cases h
    · split at h
      · obtain rfl := Except.ok.inj h
        rfl
      · cases h

theorem depth_of_step {w : List Char} (h : k.step w = .ok c) : c.depth = k.depth + 1 := by
  obtain ⟨n, -, hchild⟩ := bind_eq_ok_iff.mp h
  exact depth_of_child hchild

theorem depth_of_foldlM {ws : List (List Char)} (h : ws.foldlM step k = .ok c) : c.depth = k.depth + ws.length := by
  induction ws generalizing k with
  | nil =>
    cases h
    rfl
  | cons w ws ih =>
    rw [List.foldlM_cons] at h
    obtain ⟨d, hd, hrest⟩ := bind_eq_ok_iff.mp h
    rw [ih hrest, depth_of_step hd, List.length_cons]
    omega

theorem depth_of_derive {path : String} (h : k.derive path = .ok c) : c.depth = k.depth + Path.levels path := by
  obtain ⟨ws, hws, hfold⟩ := bind_eq_ok_iff.mp h
  rw [depth_of_foldlM hfold, Path.length_of_components hws]

/-- **Paths compose.**  What a path with something behind a further slash leads to is what this leads to from the key at
the end of the path, and the first fault on the way is the same.  A key lies below the one that it was derived from by
the levels of its path. -/
theorem derive_composes (k : ExtendedKey) (p q : String) :
    k.derive (p ++ "/" ++ q) = (k.derive p >>= fun c => c.derive ("m/" ++ q)) ∧
      ∀ path c, k.derive path = .ok c → c.depth = k.depth + Path.levels path :=
  ⟨derive_append k p q, fun _ _ => depth_of_derive⟩

/-- Empty pieces are no levels: a hardened child of a child, behind three slashes, lies two levels down, and is the
child of the child. -/
theorem derive_composes_sample : ∃ c d, Sample.master.derive "m/0'" = .ok c ∧ c.derive "m//1/" = .ok d ∧
    Sample.master.derive "m/0'//1/" = .ok d ∧ d.depth = Sample.master.depth + 2 := by
  have hsome : (Sample.master.derive "m/0'//1/").toOption.isSome := by decide +kernel
  obtain ⟨d, hd⟩ := Option.isSome_iff_exists.mp hsome
  have hderive := toOption_eq_some_iff.mp hd
  obtain ⟨hparts, hdepth⟩ := derive_composes Sample.master "m/0'" "/1/"
  obtain ⟨c, hc, hrest⟩ := bind_eq_ok_iff.mp (hparts.symm.trans hderive)
  exact ⟨c, d, hc, hrest, hderive, hdepth _ d hderive⟩

end ExtendedKey

end CellPurse
