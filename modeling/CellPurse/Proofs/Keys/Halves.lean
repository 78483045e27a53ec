import CellPurse.Proofs.Keys.Route

/-!
# CellPurse.Proofs.Keys.Halves — marked and plain components

A marked component takes a child of the upper half, made from the secret, and any other one a child of the lower half,
made from the public key.  The number that a component spells is compared with the half before the mark is looked at,
and a number below zero passes.

* `Path.InHalf w n`: the child `n` lies in the half of a component `w`; `Path.inHalf_iff`: so it does, unless the
  component spells a number below zero;
* `ExtendedKey.Takes k ws ns c`: one child for each component leads from `k` to `c`;
* `ExtendedKey.Falls k ws`: the way ends at a number that no child has;
* `Keyring.sign_keeps_halves`: what comes of a path at which an account signs;
* `Keyring.sign_below_zero`: a marked component that takes a child of the lower half.
-/

namespace CellPurse

open Outcome

/-! ## Components -/

namespace Path

/-- The component spells a number below zero. -/
def IsNegative (w : List Char) : Prop := ∃ n, spelled w = .ok n ∧ n < 0

/-- The child `n` lies in the half of a component: the upper one for a marked component, and the lower one for any
other. -/
def InHalf (w : List Char) (n : Int) : Prop :=
  if isHardened w then hardenedOffset ≤ n ∧ n < 2 ^ 32 else 0 ≤ n ∧ n < hardenedOffset

/-- The component spells a number that no child has, not even with the offset of a mark. -/
def IsBelow (w : List Char) : Prop :=
  ∃ n, spelled w = .ok n ∧ n < if isHardened w then -(hardenedOffset : Int) else 0

/-- The components after the first, of which an empty path has none. -/
def steps (path : String) : Except PathFault (List (List Char)) :=
  if path = "" then .ok [] else components path.toList

variable {w : List Char} {n : Int}

theorem exists_child_lt_zero_iff : (∃ n, child w = .ok n ∧ n < 0) ↔ IsBelow w := by
  have hoffset : (hardenedOffset : Int) = 2 ^ 31 := rfl
  have hnumber (k : Int) : (if isHardened w then k + hardenedOffset else k) < 0 ↔
      k < if isHardened w then -(hardenedOffset : Int) else 0 := by
    by_cases hw : isHardened w = true
    · rw [if_pos hw, if_pos hw]
      omega
    · rw [if_neg hw, if_neg hw]
  simp only [child_eq_ok_iff]
  constructor
  · rintro ⟨n, ⟨k, hk, -, rfl⟩, hn⟩
    exact ⟨k, hk, (hnumber k).mp hn⟩
  · rintro ⟨k, hk, hlt⟩
    refine ⟨_, ⟨k, hk, ?_, rfl⟩, (hnumber k).mpr hlt⟩
    split at hlt <;> omega

theorem child_ne_negative : child w ≠ .error .negative := by
  unfold child
  intro h
  rcases bind_eq_error_iff.mp h with h | ⟨k, -, h⟩
  · obtain ⟨f, -, hf⟩ := mapError_eq_error_iff.mp h
    cases hf
  · split at h <;> cases h

theorem steps_ne_negative {path : String} : steps path ≠ .error .negative := by
  unfold steps components
  split
  · nofun
  · split <;> nofun

/-- A component takes a child of its half, unless it spells a number below zero. -/
theorem inHalf_iff (h : child w = .ok n) : InHalf w n ↔ ¬ IsNegative w := by
  obtain ⟨k, hk, hlt, rfl⟩ := child_eq_ok_iff.mp h
  have hoffset : (hardenedOffset : Int) = 2 ^ 31 := rfl
  have hnegative : IsNegative w ↔ k < 0 := by
    constructor
    · rintro ⟨k', hk', hneg⟩
      rw [hk] at hk'
      cases hk'
      exact hneg
    · exact fun hneg => ⟨k, hk, hneg⟩
  rw [hnegative]
  unfold InHalf
  split <;> omega

end Path

namespace ExtendedKey

variable {k c d : ExtendedKey} {w : List Char} {ws : List (List Char)} {n : Int} {ns : List Int}

/-- A child of the half of a component is made from what this half stands for. -/
theorem childData_of_inHalf (k : ExtendedKey) (h : Path.InHalf w n) : k.childData n.toNat =
    (if Path.isHardened w then 0 :: k.secret.toBytes else k.publicKey.compressed) ++ Bytes.ofNatBE 4 n.toNat := by
  unfold Path.InHalf at h
  unfold childData
  by_cases hw : Path.isHardened w = true
  · rw [if_pos hw] at h ⊢
    rw [if_pos (by omega)]
  · rw [if_neg hw] at h ⊢
    rw [if_neg (by omega)]

/-- One child for each component leads from `k` to `c`, with the numbers of the children. -/
inductive Takes : ExtendedKey → List (List Char) → List Int → ExtendedKey → Prop where
  | nil (k : ExtendedKey) : Takes k [] [] k
  | cons {k d c : ExtendedKey} {w : List Char} {n : Int} {ws : List (List Char)} {ns : List Int}
      (number : Path.child w = .ok n) (child : k.IsChild n d) (rest : Takes d ws ns c) : Takes k (w :: ws) (n :: ns) c

theorem exists_takes (h : ws.foldlM step k = .ok c) : ∃ ns, k.Takes ws ns c := by
  induction ws generalizing k with
  | nil =>
    cases h
    exact ⟨[], .nil _⟩
  | cons w ws ih =>
    rw [List.foldlM_cons] at h
    obtain ⟨d, hd, h⟩ := bind_eq_ok_iff.mp h
    obtain ⟨n, hn, hchild⟩ := bind_eq_ok_iff.mp hd
    obtain ⟨ns, hns⟩ := ih h
    exact ⟨n :: ns, .cons hn (isChild_of_child (Path.child_lt hn) hchild) hns⟩

/-- Each child lies in the half of its component, unless this spells a number below zero. -/
theorem Takes.inHalf_iff (h : k.Takes ws ns c) :
    List.Forall₂ (fun w n => Path.InHalf w n ↔ ¬ Path.IsNegative w) ws ns := by
  induction h with
  | nil => exact .nil
  | cons hn _ _ ih => exact .cons (Path.inHalf_iff hn) ih

/-! ## Ways that end -/

/-- The way ends at a component that spells a number which no child has. -/
def Falls (k : ExtendedKey) (ws : List (List Char)) : Prop :=
  ∃ before w after d, ws = before ++ w :: after ∧ before.foldlM step k = .ok d ∧ Path.IsBelow w

theorem child_eq_negative_iff : k.child n = .error .negative ↔ n < 0 := by
  unfold child
  by_cases hn : n < 0
  · rw [if_pos hn]
    exact iff_of_true rfl hn
  · rw [if_neg hn]
    refine iff_of_false ?_ hn
    dsimp only
    generalize Hash.Hmac512.tag k.chainCode (k.childData n.toNat) = tag
    split
    · nofun
    · split <;> nofun

theorem step_eq_negative_iff : k.step w = .error .negative ↔ Path.IsBelow w := by
  unfold step
  rw [bind_eq_error_iff, or_iff_right Path.child_ne_negative, ← Path.exists_child_lt_zero_iff]
  exact exists_congr fun n => and_congr_right fun _ => child_eq_negative_iff

theorem falls_iff : k.Falls ws ↔ ws.foldlM step k = .error .negative := by
  rw [foldlM_eq_error_iff]
  unfold Falls
  simp only [step_eq_negative_iff]

end ExtendedKey

/-! ## Signatures -/

theorem KeyringFault.kind_signingPath {f : PathFault} (path : String) (h : f ≠ .negative) :
    (KeyringFault.signingPath path f).kind = .derivation := by
  cases f with
  | negative => exact absurd rfl h
  | noRoot => rfl
  | literal => rfl
  | outOfRange => rfl
  | invalidChild => rfl

namespace Account

theorem signingKey_eq (a : Account) (path : String) : a.signingKey path =
    (Path.steps path >>= fun ws => ws.foldlM ExtendedKey.step a.master).mapError (.signingPath path) := by
  unfold signingKey Path.steps
  by_cases hempty : path = ""
  · rw [if_pos (.inl hempty), if_pos hempty]
    rfl
  · rw [if_neg hempty]
    by_cases hroot : path = "m"
    · subst hroot
      rfl
    · rw [if_neg (not_or.mpr ⟨hempty, hroot⟩)]
      rfl

end Account

namespace Keyring

variable {ring : Keyring} {account : Bytes} {password : String} {a : Account}

theorem sign_eq_of_unlock (hunlock : ring.unlock account password = .ok a) (path : String) (digest : Bytes) :
    ring.sign account path digest password =
      (Path.steps path >>= fun ws => ws.foldlM ExtendedKey.step a.master).mapError (.signingPath path) >>= fun key =>
        (key.secret.sign digest).mapError .key := by
  unfold sign
  rw [hunlock, ok_bind, Account.sign, Account.signingKey_eq]

theorem sign_of_falls (hunlock : ring.unlock account password = .ok a) {path : String} {ws : List (List Char)}
    (hsteps : Path.steps path = .ok ws) (hfalls : a.master.Falls ws) (digest : Bytes) :
    ring.sign account path digest password = .error (.signingPath path .negative) := by
  rw [sign_eq_of_unlock hunlock, hsteps, ok_bind, ExtendedKey.falls_iff.mp hfalls]
  rfl

/-- **Components keep their halves, unless they spell numbers below zero.**  Where an account is unlocked, a path is
refused as one that leads to no key, or the way falls at a component below the numbers of all children, which has no
words, or the path signs with the key at the end of one child for each component; each child lies in the half of its
component exactly if this does not spell a number below zero.  Where every component has the number of a child, nothing
but these children decides.  A child of the upper half is made from the secret, and one of the lower half from the
public key. -/
theorem sign_keeps_halves (hunlock : ring.unlock account password = .ok a) (path : String) (digest : Bytes) :
    ((∃ f, ring.sign account path digest password = .error (.signingPath path f) ∧
        (KeyringFault.signingPath path f).kind = .derivation) ∨
      (ring.sign account path digest password = .error (.signingPath path .negative) ∧
        ∃ ws, Path.steps path = .ok ws ∧ a.master.Falls ws) ∨
      ∃ ws ns key, Path.steps path = .ok ws ∧ a.master.Takes ws ns key ∧
        ring.sign account path digest password = (key.secret.sign digest).mapError .key ∧
        List.Forall₂ (fun w n => Path.InHalf w n ↔ ¬ Path.IsNegative w) ws ns) ∧
    (∀ ws, Path.steps path = .ok ws → a.master.Falls ws →
      ring.sign account path digest password = .error (.signingPath path .negative)) ∧
    (∀ ws ns, Path.steps path = .ok ws → ws.mapM Path.child = .ok ns → ring.sign account path digest password =
      (ns.foldlM ExtendedKey.child a.master).mapError (.signingPath path) >>= fun key =>
        (key.secret.sign digest).mapError .key) ∧
    ∀ w n, Path.InHalf w n → ∀ k : ExtendedKey, k.childData n.toNat =
      (if Path.isHardened w then 0 :: k.secret.toBytes else k.publicKey.compressed) ++ Bytes.ofNatBE 4 n.toNat := by
  have hsign := sign_eq_of_unlock hunlock path digest
  refine ⟨?outcome, fun ws hws hfalls => sign_of_falls hunlock hws hfalls digest, ?children,
    fun w n h k => k.childData_of_inHalf h⟩
  case outcome =>
    cases hkey : Path.steps path >>= fun ws => ws.foldlM ExtendedKey.step a.master with
    | error f =>
      rw [hkey] at hsign
      by_cases hf : f = .negative
      · subst hf
        refine .inr (.inl ⟨hsign, ?_⟩)
        rcases bind_eq_error_iff.mp hkey with hsteps | ⟨ws, hws, hfold⟩
        · exact absurd hsteps Path.steps_ne_negative
        · exact ⟨ws, hws, ExtendedKey.falls_iff.mpr hfold⟩
      · exact .inl ⟨_, hsign, KeyringFault.kind_signingPath path hf⟩
    | ok key =>
      rw [hkey] at hsign
      obtain ⟨ws, hws, hfold⟩ := bind_eq_ok_iff.mp hkey
      obtain ⟨ns, htakes⟩ := ExtendedKey.exists_takes hfold
      exact .inr (.inr ⟨ws, ns, key, hws, htakes, hsign, htakes.inHalf_iff⟩)
  case children =>
    intro ws ns hws hns
    rw [hsign, hws, ok_bind, ExtendedKey.foldlM_step_eq hns]

theorem sign_keeps_halves_sample : Sample.ring.unlock Sample.name "open" = .ok Sample.account ∧
    ∀ digest, ∃ n key, Sample.master.Takes [['0', '\'']] [n] key ∧ Path.InHalf ['0', '\''] n ∧
      Sample.ring.sign Sample.name "m/0'" digest "open" = (key.secret.sign digest).mapError .key := by
  have hsteps : Path.steps "m/0'" = .ok [['0', '\'']] := by
    rw [← toOption_eq_some_iff]
    decide
  have hspelled : Path.spelled ['0', '\''] = .ok 0 := by
    rw [← toOption_eq_some_iff]
    decide
  have hsome : (Sample.master.derive "m/0'").toOption.isSome := by decide +kernel
  obtain ⟨key, hkey⟩ := Option.isSome_iff_exists.mp hsome
  have hsign := sign_of_derive Sample.unlock_ring (by decide) (toOption_eq_some_iff.mp hkey)
  refine ⟨Sample.unlock_ring, fun digest => ?_⟩
  rcases (sign_keeps_halves Sample.unlock_ring "m/0'" digest).1 with
    ⟨f, hf, -⟩ | ⟨hf, -⟩ | ⟨ws, ns, key, hws, htakes, hkey, hhalves⟩
  · rw [hsign digest] at hf
    obtain ⟨_, -, hf⟩ := mapError_eq_error_iff.mp hf
    cases hf
  · rw [hsign digest] at hf
    obtain ⟨_, -, hf⟩ := mapError_eq_error_iff.mp hf
    cases hf
  · obtain rfl := Except.ok.inj (hsteps.symm.trans hws)
    obtain ⟨n, _, hhalf, hnil, rfl⟩ := List.forall₂_cons_left_iff.mp hhalves
    obtain rfl := List.forall₂_nil_left_iff.mp hnil
    refine ⟨n, key, htakes, hhalf.mpr ?_, hkey⟩
    rintro ⟨k, hk, hneg⟩
    obtain rfl := Except.ok.inj (hspelled.symm.trans hk)
    exact absurd hneg (lt_irrefl 0)

/-- A marked component below zero signs with a child of the lower half, and one without a mark ends the way with a fault
that has no words. -/
theorem sign_below_zero : (∃ w key, Path.steps "m/-1'" = .ok [w] ∧ Path.isHardened w ∧ ¬ Path.InHalf w 2147483647 ∧
      Sample.master.Takes [w] [2147483647] key ∧ ∀ digest,
        Sample.ring.sign Sample.name "m/-1'" digest "open" = (key.secret.sign digest).mapError .key) ∧
    ∀ digest, Sample.ring.sign Sample.name "m/-1" digest "open" = .error (.signingPath "m/-1" .negative) ∧
      (KeyringFault.signingPath "m/-1" .negative).kind = .unbounded := by
  have hmarked : Path.steps "m/-1'" = .ok [['-', '1', '\'']] := by
    rw [← toOption_eq_some_iff]
    decide
  have hplain : Path.steps "m/-1" = .ok [['-', '1']] := by
    rw [← toOption_eq_some_iff]
    decide
  have hspelled : Path.spelled ['-', '1', '\''] = .ok (-1) ∧ Path.spelled ['-', '1'] = .ok (-1) := by
    rw [← toOption_eq_some_iff, ← toOption_eq_some_iff]
    decide
  have hnumber : Path.child ['-', '1', '\''] = .ok 2147483647 :=
    Path.child_eq_ok_iff.mpr ⟨-1, hspelled.1, by decide, by decide⟩
  have hsome : (Sample.master.child 2147483647).toOption.isSome := by decide +kernel
  obtain ⟨key, hkey⟩ := Option.isSome_iff_exists.mp hsome
  have hchild := toOption_eq_some_iff.mp hkey
  have hderive : Sample.master.derive "m/-1'" = .ok key :=
    bind_eq_ok_iff.mpr ⟨_, hmarked, bind_eq_ok_iff.mpr ⟨key, bind_eq_ok_iff.mpr ⟨_, hnumber, hchild⟩, rfl⟩⟩
  refine ⟨⟨_, key, hmarked, rfl, fun hhalf => ?_, ?_, ?_⟩, fun digest => ⟨?_, rfl⟩⟩
  · exact (Path.inHalf_iff hnumber).mp hhalf ⟨-1, hspelled.1, by decide⟩
  · exact .cons hnumber (ExtendedKey.isChild_of_child (Path.child_lt hnumber) hchild) (.nil key)
  · exact sign_of_derive Sample.unlock_ring (by decide) hderive
  · exact sign_of_falls Sample.unlock_ring hplain ⟨[], _, [], _, rfl, rfl, -1, hspelled.2, by decide⟩ digest

end Keyring

end CellPurse
