import CellPurse.Proofs.Keys.Authority
import CellPurse.Proofs.Keys.Derived
import Mathlib.Tactic.Ring

/-!
# CellPurse.Proofs.Keys.Route — two ways to the key of a path

A key is listed on its way from the key of a branch, and signs on its way from the root of the account.

* `Path.child_eq_ok_iff`: the child that a component takes, by the number that it spells;
* `ExtendedKey.derive_append`: a path is taken in one go as in two parts;
* `ExtendedKey.IsChild k n c`: `c` is made from `k` by the arithmetic of scalars; `isChild_of_child`: so are children;
* `ExtendedKey.Meets k path c`: `c` is a key on the way from `k` along a path, with `k` itself and the last one;
* `ExtendedKey.derive_place`: the text of a place leads to the child of this number;
* `ChildRange.getElem?_toList`: the places of a range;
* `Account.Places a branch i e`: the entry `e` has path and key of the place `i` of a branch;
* `Keyring.sign_at_listed_path`: listed keys are those of their places, and a path signs with the key it is listed for.
-/

namespace CellPurse

open Outcome Text

theorem Text.Split.pieces_of_notMem {sep : Char} {cs : List Char} (h : sep ∉ cs) : pieces sep cs = [cs] := by
  induction cs with
  | nil => rfl
  | cons c r ih =>
    have hc : c ≠ sep := fun heq => h (heq ▸ List.mem_cons_self)
    rw [pieces, if_neg hc, ih fun hr => h (List.mem_cons_of_mem _ hr)]

/-! ## Paths in parts -/

namespace Path

/-- The components of a text behind a slash. -/
def parts (cs : List Char) : List (List Char) := (Split.pieces '/' cs).filter fun w => !w.isEmpty

theorem components_root (q : List Char) : components ('m' :: '/' :: q) = .ok (parts q) := rfl

theorem components_of_ne {c : Char} (h : c ≠ 'm') (r : List Char) : components (c :: r) = .error .noRoot := by
  unfold components
  split
  next heq => exact absurd (List.cons.inj heq).1 h
  · rfl

theorem components_append (p q : List Char) :
    components (p ++ '/' :: q) = (components p).map (· ++ parts q) := by
  match p with
  | [] => rfl
  | c :: r =>
    by_cases hroot : c = 'm'
    · obtain rfl := hroot
      show Except.ok ((Split.pieces '/' ('m' :: r ++ '/' :: q)).tail.filter _) = Except.ok _
      rw [Split.pieces_append, List.tail_append_of_ne_nil (Split.pieces_ne_nil _ _), List.filter_append]
      rfl
    · rw [List.cons_append, components_of_ne hroot, components_of_ne hroot]
      rfl

/-- The number that a component spells, without its marks. -/
def spelled (w : List Char) : Except LiteralFault Int := Literal.parse 10 (String.ofList (unmarked w))

theorem child_eq_ok_iff {w : List Char} {n : Int} : child w = .ok n ↔
    ∃ k, spelled w = .ok k ∧ k < hardenedOffset ∧ n = if isHardened w then k + hardenedOffset else k := by
  unfold child
  rw [bind_eq_ok_iff]
  refine exists_congr fun k => ?_
  rw [mapError_eq_ok_iff]
  refine and_congr_right fun _ => ?_
  by_cases hk : (hardenedOffset : Int) ≤ k
  · rw [if_pos hk]
    exact iff_of_false nofun fun h => absurd h.1 (Int.not_lt.mpr hk)
  · rw [if_neg hk, pure_eq_ok_iff, eq_comm]
    exact (and_iff_right (Int.not_le.mp hk)).symm

/-- Children have numbers of 32 bits. -/
theorem child_lt {component : List Char} {n : Int} (h : child component = .ok n) : n < 2 ^ 32 := by
  obtain ⟨k, -, hk, rfl⟩ := child_eq_ok_iff.mp h
  have hoffset : (hardenedOffset : Int) = 2 ^ 31 := rfl
  split <;> omega

/-! ## The text of a place -/

theorem unmarked_of_not_isHardened {w : List Char} (h : isHardened w = false) : unmarked w = w := by
  rcases List.eq_nil_or_concat' w with rfl | ⟨l, c, rfl⟩
  · rfl
  · unfold isHardened at h
    rw [List.getLast?_append_cons, List.getLast?_singleton] at h
    unfold unmarked
    rw [List.reverse_append, List.reverse_singleton, List.singleton_append,
      List.dropWhile_cons_of_neg (Bool.not_eq_true _ ▸ h), List.reverse_cons, List.reverse_reverse]

/-- The text of an integer is a sign and digits, at least one. -/
theorem exists_toString (i : Int) : ∃ negative ds c, (toString i).toList = Literal.front negative ++ (ds ++ [c]) ∧
    ∀ d ∈ ds ++ [c], d.isDigit := by
  rcases List.eq_nil_or_concat' (Nat.toDigits 10 i.natAbs) with hnil | ⟨ds, c, hds⟩
  · exact absurd hnil Nat.toDigits_ne_nil
  · refine ⟨decide (i < 0), ds, c, ?_, fun d hd => ?_⟩
    · rw [Literal.toString_eq, String.toList_ofList, hds]
    · rw [← hds] at hd
      exact Nat.isDigit_of_mem_toDigits (by decide) (by decide) hd

theorem facts_of_isDigit {c : Char} (h : c.isDigit) : c ≠ '/' ∧ isMark c = false := by
  obtain ⟨n, hn, rfl⟩ := Literal.exists_char_of_isDigit h
  have hall : ∀ n < 10, Digit.char n ≠ '/' ∧ isMark (Digit.char n) = false := by decide
  exact hall n hn

theorem parts_toString (i : Int) : parts (toString i).toList = [(toString i).toList] := by
  obtain ⟨negative, ds, c, htext, hdigits⟩ := exists_toString i
  have hslash : '/' ∉ (toString i).toList := by
    rw [htext, List.mem_append]
    rintro (h | h)
    · cases negative with
      | true => exact absurd h (by decide)
      | false => exact absurd h List.not_mem_nil
    · exact (facts_of_isDigit (hdigits _ h)).1 rfl
  have hfull : (toString i).toList.isEmpty = false := by
    rw [htext]
    simp
  unfold parts
  rw [Split.pieces_of_notMem hslash, List.filter_cons_of_pos (by rw [hfull]; rfl), List.filter_nil]

theorem not_isHardened_toString (i : Int) : isHardened (toString i).toList = false := by
  obtain ⟨negative, ds, c, htext, hdigits⟩ := exists_toString i
  unfold isHardened
  rw [htext, ← List.append_assoc, List.getLast?_append_cons, List.getLast?_singleton]
  exact (facts_of_isDigit (hdigits c (List.mem_append_right _ List.mem_cons_self))).2

/-- The text of a place takes the child of this number, which is not hardened. -/
theorem child_toString {i n : Int} (h : child (toString i).toList = .ok n) : n = i ∧ i < hardenedOffset := by
  obtain ⟨k, hk, hlt, rfl⟩ := child_eq_ok_iff.mp h
  rw [spelled, unmarked_of_not_isHardened (not_isHardened_toString i), String.ofList_toList] at hk
  obtain rfl := Literal.eq_of_parse_toString hk
  rw [if_neg (by rw [not_isHardened_toString i]; exact Bool.false_ne_true)]
  exact ⟨rfl, hlt⟩

end Path

namespace ExtendedKey

variable {k c : ExtendedKey}

/-- **A path is taken in one go as in two parts.** -/
theorem derive_append (k : ExtendedKey) (p q : String) :
    k.derive (p ++ "/" ++ q) = k.derive p >>= fun c => c.derive ("m/" ++ q) := by
  have hchars : (p ++ "/" ++ q).toList = p.toList ++ '/' :: q.toList := by
    simp
  have hroot : ("m/" ++ q).toList = 'm' :: '/' :: q.toList := by
    simp
  unfold derive
  rw [hchars, hroot, Path.components_append, Path.components_root]
  cases Path.components p.toList with
  | error f => rfl
  | ok cs => exact List.foldlM_append

/-- The text of a place leads to the child of this number. -/
theorem derive_place {i : Int} (h : k.derive ("m/" ++ toString i) = .ok c) :
    i < Path.hardenedOffset ∧ k.child i = .ok c := by
  have hcomponents : Path.components ("m/" ++ toString i).toList = .ok [(toString i).toList] := by
    rw [String.toList_append, ← Path.parts_toString i]
    exact Path.components_root _
  obtain ⟨components, hsplit, h⟩ := bind_eq_ok_iff.mp h
  obtain rfl := Except.ok.inj (hcomponents.symm.trans hsplit)
  rw [List.foldlM_cons] at h
  obtain ⟨c', hstep, hlast⟩ := bind_eq_ok_iff.mp h
  rw [List.foldlM_nil] at hlast
  obtain rfl := pure_eq_ok_iff.mp hlast
  obtain ⟨n, hn, hchild⟩ := bind_eq_ok_iff.mp hstep
  obtain ⟨rfl, hlt⟩ := Path.child_toString hn
  exact ⟨hlt, hchild⟩

/-! ## Keys on the way -/

/-- The digest that a child is made from. -/
def childTag (k : ExtendedKey) (n : Nat) : Bytes := Hash.Hmac512.tag k.chainCode (k.childData n)

/-- `c` is the child of `k` with number `n`: its scalar is that of `k` and the first half of the digest, modulo the
order, and its chain code the second half. -/
structure IsChild (k : ExtendedKey) (n : Int) (c : ExtendedKey) : Prop where
  number : 0 ≤ n ∧ n < 2 ^ 32
  offset_lt : Bytes.toNatBE ((k.childTag n.toNat).take 32) < Curve.order
  scalar_eq : c.secret.scalar = (k.secret.scalar + Bytes.toNatBE ((k.childTag n.toNat).take 32)) % Curve.order
  chainCode_eq : c.chainCode = (k.childTag n.toNat).drop 32

theorem isChild_of_child {n : Int} (hn : n < 2 ^ 32) (h : k.child n = .ok c) : k.IsChild n c := by
  -- the digest is named: nothing here evaluates it
  obtain ⟨tag, htag⟩ : ∃ tag, k.childTag n.toNat = tag := ⟨_, rfl⟩
  have hdigest : Hash.Hmac512.tag k.chainCode (k.childData n.toNat) = tag := by
    rw [← htag, childTag]
  unfold child at h
  rw [hdigest] at h
  by_cases hneg : n < 0
  · rw [if_pos hneg] at h
    cases h
  rw [if_neg hneg] at h
  dsimp only at h
  by_cases hoffset : Curve.order ≤ Bytes.toNatBE (tag.take 32)
  · rw [if_pos hoffset] at h
    cases h
  rw [if_neg hoffset] at h
  unfold Secret.ofNat at h
  by_cases hrange : 0 < (k.secret.scalar + Bytes.toNatBE (tag.take 32)) % Curve.order ∧
      (k.secret.scalar + Bytes.toNatBE (tag.take 32)) % Curve.order < Curve.order
  · rw [dif_pos hrange] at h
    obtain rfl := Except.ok.inj h
    refine ⟨⟨Int.not_lt.mp hneg, hn⟩, ?_, ?_, ?_⟩
    · rw [htag]
      exact Nat.not_le.mp hoffset
    · rw [htag]
      rfl
    · rw [htag]
      rfl
  · rw [dif_neg hrange] at h
    cases h

/-- `c` is a key on the way from `k` along a path. -/
def Meets (k : ExtendedKey) (path : String) (c : ExtendedKey) : Prop :=
  ∃ front back, Path.components path.toList = .ok (front ++ back) ∧ front.foldlM step k = .ok c

variable {path : String}

theorem meets_of_derive (h : k.derive path = .ok c) : k.Meets path c := by
  obtain ⟨components, hcomponents, h⟩ := bind_eq_ok_iff.mp h
  exact ⟨components, [], by rw [hcomponents, List.append_nil], h⟩

/-- Each key on the way is the first one, or a child of another one on the way. -/
theorem Meets.eq_or_isChild (h : k.Meets path c) : c = k ∨ ∃ parent n, k.Meets path parent ∧ parent.IsChild n c := by
  obtain ⟨front, back, hcomponents, hfold⟩ := h
  rcases List.eq_nil_or_concat' front with rfl | ⟨front, component, rfl⟩
  · rw [List.foldlM_nil] at hfold
    exact .inl (pure_eq_ok_iff.mp hfold).symm
  · rw [List.foldlM_append] at hfold
    obtain ⟨parent, hparent, hrest⟩ := bind_eq_ok_iff.mp hfold
    rw [List.foldlM_cons] at hrest
    obtain ⟨c', hstep, hlast⟩ := bind_eq_ok_iff.mp hrest
    rw [List.foldlM_nil] at hlast
    obtain rfl := pure_eq_ok_iff.mp hlast
    obtain ⟨n, hn, hchild⟩ := bind_eq_ok_iff.mp hstep
    refine .inr ⟨parent, n, ⟨front, component :: back, ?_, hparent⟩, isChild_of_child (Path.child_lt hn) hchild⟩
    rw [hcomponents, List.append_assoc, List.singleton_append]

theorem foldlM_step_eq {components : List (List Char)} {numbers : List Int}
    (hnumbers : components.mapM Path.child = .ok numbers) (k : ExtendedKey) :
    components.foldlM step k = numbers.foldlM child k := by
  have hpairs := mapM_eq_ok_iff.mp hnumbers
  clear hnumbers
  induction hpairs generalizing k with
  | nil => rfl
  | cons hn _ ih =>
    rw [List.foldlM_cons, List.foldlM_cons, step, hn]
    exact bind_congr fun c => ih c

/-- A path takes the children whose numbers its components spell. -/
theorem derive_eq_foldlM {components : List (List Char)} {numbers : List Int}
    (hcomponents : Path.components path.toList = .ok components)
    (hnumbers : components.mapM Path.child = .ok numbers) : k.derive path = numbers.foldlM child k := by
  unfold derive
  rw [hcomponents]
  exact foldlM_step_eq hnumbers k

end ExtendedKey

/-! ## Ranges -/

namespace ChildRange

variable {r : ChildRange} {n : Nat}

theorem lt_size_of_step_pos (hstep : 0 < r.step) : n < r.size ↔ r.start + r.step * n < r.stop := by
  have hsize : r.size = ((r.stop - r.start + r.step - 1) / r.step).toNat := if_pos hstep
  have hdiv : ((n + 1 : Int) ≤ (r.stop - r.start + r.step - 1) / r.step) ↔
      (n + 1 : Int) * r.step ≤ r.stop - r.start + r.step - 1 := Int.le_ediv_iff_mul_le hstep
  have hmul : (n + 1 : Int) * r.step = r.step * n + r.step := by ring
  omega

theorem lt_size_of_step_neg (hstep : r.step < 0) : n < r.size ↔ r.stop < r.start + r.step * n := by
  have hsize : r.size = ((r.start - r.stop - r.step - 1) / -r.step).toNat := by
    unfold size
    rw [if_neg (by omega), if_pos hstep]
  have hdiv : ((n + 1 : Int) ≤ (r.start - r.stop - r.step - 1) / -r.step) ↔
      (n + 1 : Int) * -r.step ≤ r.start - r.stop - r.step - 1 := Int.le_ediv_iff_mul_le (by omega)
  have hmul : (n + 1 : Int) * -r.step = -(r.step * n) - r.step := by ring
  omega

/-- The place `n` of a range is that many steps from its start, as long as the bound is not reached. -/
theorem getElem?_toList (hstep : r.step ≠ 0) (n : Nat) :
    r.toList[n]? = if (if 0 < r.step then r.start + r.step * n < r.stop else r.stop < r.start + r.step * n)
      then some (r.start + r.step * n) else Option.none := by
  have hbound : n < r.size ↔ if 0 < r.step then r.start + r.step * n < r.stop else r.stop < r.start + r.step * n := by
    split
    next h => exact lt_size_of_step_pos h
    next h => exact lt_size_of_step_neg (by omega)
  simp only [← hbound]
  unfold toList
  by_cases hn : n < r.size
  · rw [if_pos hn, List.getElem?_map, List.getElem?_range hn]
    rfl
  · rw [if_neg hn, List.getElem?_eq_none (by simpa using hn)]

end ChildRange

/-! ## Listed keys -/

namespace Account

/-- The numbers of the children on the way to the branches. -/
def rootNumbers : List Int := [44 + Path.hardenedOffset, 309 + Path.hardenedOffset, Path.hardenedOffset]

/-- The numbers of the children on the way to a place of a branch. -/
def numbers (branch : Nat) (i : Int) : List Int := rootNumbers ++ [(branch : Int), i]

/-- The entry of a place of a branch: its path leads to the key of the place. -/
def Places (master : ExtendedKey) (branch : Nat) (i : Int) (e : KeyEntry) : Prop :=
  0 ≤ i ∧ i < Path.hardenedOffset ∧ e.path = branchPath branch ++ "/" ++ toString i ∧
    ∃ key, (numbers branch i).foldlM ExtendedKey.child master = .ok key ∧ master.derive e.path = .ok key ∧
      e.keyHash = key.secret.keyHash

theorem Places.path_ne {master : ExtendedKey} {branch : Nat} {i : Int} {e : KeyEntry} (h : Places master branch i e) :
    e.path ≠ "" ∧ e.path ≠ "m" := by
  obtain ⟨-, -, hpath, -⟩ := h
  have hlong : 1 < e.path.length := by
    rw [hpath, branchPath, String.length_append, String.length_append, String.length_append]
    have hroot : "m/44'/309'/0'/".length = 14 := by decide
    omega
  constructor <;> intro heq <;> rw [heq] at hlong <;> exact absurd hlong (by decide)

theorem derive_root (master : ExtendedKey) :
    master.derive "m/44'/309'/0'" = rootNumbers.foldlM ExtendedKey.child master := by
  have hcomponents : Path.components "m/44'/309'/0'".toList =
      .ok [['4', '4', '\''], ['3', '0', '9', '\''], ['0', '\'']] := by
    rw [← toOption_eq_some_iff]
    decide
  refine ExtendedKey.derive_eq_foldlM hcomponents ?_
  rw [← toOption_eq_some_iff]
  decide

theorem branchPath_eq (branch : Nat) : branchPath branch = "m/44'/309'/0'" ++ "/" ++ toString (branch : Int) := by
  unfold branchPath
  rw [Int.toString_eq_repr, Int.repr_eq_if, if_pos (Int.natCast_nonneg _), Int.toNat_natCast, Nat.toString_eq_repr]
  congr 1

theorem places_of_entryAt {master : ExtendedKey} {branch : Nat} {i : Int} {e : KeyEntry}
    (h : EntryAt master branch i e) : Places master branch i e := by
  obtain ⟨root, key, hroot, hkey, rfl⟩ := h
  have hwhole := hroot
  rw [branchPath_eq, ExtendedKey.derive_append, derive_root] at hroot
  obtain ⟨purse, hpurse, hbranch⟩ := bind_eq_ok_iff.mp hroot
  obtain ⟨-, hbranch⟩ := ExtendedKey.derive_place hbranch
  obtain ⟨hlt, hchild⟩ := ExtendedKey.derive_place hkey
  have hoffset : (Path.hardenedOffset : Int) = 2 ^ 31 := rfl
  refine ⟨(ExtendedKey.isChild_of_child (by omega) hchild).number.1, hlt, rfl, key, ?_, ?_, ?_⟩
  · unfold numbers
    rw [List.foldlM_append, bind_eq_ok_iff]
    refine ⟨purse, hpurse, ?_⟩
    rw [List.foldlM_cons, bind_eq_ok_iff]
    refine ⟨root, hbranch, ?_⟩
    rw [List.foldlM_cons, bind_eq_ok_iff]
    exact ⟨key, hchild, List.foldlM_nil⟩
  · rw [ExtendedKey.derive_append, hwhole]
    exact hkey
  · show key.publicKey.keyHash = key.secret.publicKey.keyHash
    rw [key.publicKey_eq]

end Account

namespace Keyring

theorem sign_of_derive {ring : Keyring} {account : Bytes} {password : String} {a : Account} {path : String}
    {key : ExtendedKey} (hunlock : ring.unlock account password = .ok a) (hpath : path ≠ "" ∧ path ≠ "m")
    (hkey : a.master.derive path = .ok key) (digest : Bytes) :
    ring.sign account path digest password = (key.secret.sign digest).mapError .key := by
  unfold sign
  rw [hunlock]
  show a.sign path digest = _
  unfold Account.sign Account.signingKey
  rw [if_neg (not_or.mpr hpath), hkey]
  rfl

/-- **A listed path signs for its key.**  Where an account derives keys, each branch lists one entry for each place of
its range, in order, with the path and the key of the place.  Every key hash of the two branches has a path, and what
is signed at this path is signed by the secret whose public key has this hash.  All secrets on the ways to listed keys
are between zero and the order, and each but the first is made from the one before by the arithmetic of scalars. -/
theorem sign_at_listed_path (ring : Keyring) (account : Bytes) (password : String) (external change : ChildRange)
    (keys : DerivedKeys) (h : ring.derive account password external change = .ok keys) :
    ∃ a, ring.unlock account password = .ok a ∧
      List.Forall₂ (Account.Places a.master Account.receiving) external.toList keys.external ∧
      List.Forall₂ (Account.Places a.master Account.changing) change.toList keys.change ∧
      (∀ hash ∈ keys.keyHashes, ∃ path key, KeyEntry.pathOf? keys.entries hash = some path ∧
        a.master.derive path = .ok key ∧ key.secret.keyHash = hash ∧
        ∀ digest, ring.sign account path digest password = (key.secret.sign digest).mapError .key) ∧
      ∀ e ∈ keys.entries, ∀ c, a.master.Meets e.path c → 0 < c.secret.scalar ∧ c.secret.scalar < Curve.order ∧
        (c = a.master ∨ ∃ parent n, a.master.Meets e.path parent ∧ parent.IsChild n c) := by
  obtain ⟨a, hunlock, hderive⟩ := bind_eq_ok_iff.mp h
  obtain ⟨hexternal, hchange⟩ := Account.entries_of_derive hderive
  have hreceiving := hexternal.imp fun _ _ => Account.places_of_entryAt
  have hchanging := hchange.imp fun _ _ => Account.places_of_entryAt
  refine ⟨a, hunlock, hreceiving, hchanging, fun hash hmem => ?_, fun e _ c hmeets => ?_⟩
  · obtain ⟨path, hpath⟩ := KeyEntry.exists_pathOf?_iff.mpr (List.mem_map.mp hmem)
    obtain ⟨e, he, rfl, rfl⟩ := KeyEntry.pathOf?_eq_some hpath
    have hplace : ∃ branch i, Account.Places a.master branch i e := by
      rcases List.mem_append.mp he with he | he
      · obtain ⟨i, hi⟩ := exists_of_forall₂ hreceiving.flip he
        exact ⟨_, i, hi⟩
      · obtain ⟨i, hi⟩ := exists_of_forall₂ hchanging.flip he
        exact ⟨_, i, hi⟩
    obtain ⟨branch, i, hplace⟩ := hplace
    obtain ⟨-, -, -, key, -, hkey, hhash⟩ := id hplace
    exact ⟨e.path, key, hpath, hkey, hhash.symm, sign_of_derive hunlock hplace.path_ne hkey⟩
  · exact ⟨c.secret.pos, c.secret.lt_order, hmeets.eq_or_isChild⟩

theorem sign_at_listed_path_sample : ∃ keys, Sample.ring.derive Sample.name "open" .none (.between 0 1) = .ok keys ∧
    ∃ path, ∃ key : ExtendedKey, KeyEntry.pathOf? keys.entries Sample.entry.keyHash = some path ∧
      key.secret.keyHash = Sample.entry.keyHash ∧
      ∀ digest, Sample.ring.sign Sample.name path digest "open" = (key.secret.sign digest).mapError .key := by
  have hderive : Sample.ring.derive Sample.name "open" .none (.between 0 1) = .ok ⟨[], [Sample.entry]⟩ :=
    bind_eq_ok_iff.mpr ⟨Sample.account, Sample.unlock_ring, Sample.derive_account⟩
  obtain ⟨a, -, -, -, hsign, -⟩ := sign_at_listed_path _ _ _ _ _ _ hderive
  obtain ⟨path, key, hpath, -, hhash, hdigest⟩ := hsign Sample.entry.keyHash (List.mem_singleton.mpr rfl)
  exact ⟨_, hderive, path, key, hpath, hhash, hdigest⟩

end Keyring

end CellPurse
