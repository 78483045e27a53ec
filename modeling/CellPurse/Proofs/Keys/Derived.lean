import CellPurse.Keys.Expansion
import CellPurse.Proofs.Number.Literal
import CellPurse.Proofs.Outcome

/-!
# CellPurse.Proofs.Keys.Derived — the keys that an account lists

* `Account.EntryAt master branch i e`: `e` is the key at the place `i` of a branch, with its path;
* `Account.Lists a keys`: every entry of `keys` is of this form, on its branch; `lists_of_derive`: so it is with keys
  that an account derives; `Lists.keyHash_eq`: a path has one key;
* `Expansion.through_eq_some`, `search_eq_some`: a search for a key hands over entries that were derived, the wanted one
  among them;
* `Keyring.lists_of_expandToChange`: so it is with the keys up to an address for change.
-/

namespace CellPurse

open Outcome

namespace Account

/-- The key at a place of a branch, with its path. -/
def EntryAt (master : ExtendedKey) (branch : Nat) (i : Int) (e : KeyEntry) : Prop :=
  ∃ root key, master.derive (branchPath branch) = .ok root ∧ root.derive ("m/" ++ toString i) = .ok key ∧
    e = ⟨branchPath branch ++ "/" ++ toString i, key.keyHash⟩

/-- One entry for each place, in their order. -/
theorem entries_of_deriveBranch {master : ExtendedKey} {branch : Nat} {places : ChildRange} {entries : List KeyEntry}
    (h : deriveBranch master branch places = .ok entries) :
    List.Forall₂ (EntryAt master branch) places.toList entries := by
  unfold deriveBranch at h
  by_cases hsize : places.size = 0
  · rw [if_pos hsize] at h
    cases h
    have hnone : places.toList = [] := by
      unfold ChildRange.toList
      rw [hsize]
      rfl
    rw [hnone]
    exact .nil
  · rw [if_neg hsize] at h
    obtain ⟨root, hroot, h⟩ := bind_eq_ok_iff.mp h
    rw [ChildRange.collect_eq_mapM] at h
    refine (mapM_eq_ok_iff.mp h).imp fun i e he => ?_
    obtain ⟨place, hplace, he⟩ := bind_eq_ok_iff.mp he
    obtain rfl := Literal.eq_toString_of_decimal (mapError_eq_ok_iff.mp hplace)
    obtain ⟨key, hkey, he⟩ := bind_eq_ok_iff.mp he
    exact ⟨root, key, hroot, hkey, (pure_eq_ok_iff.mp he).symm⟩

/-- Every entry is the key at some place of its branch. -/
structure Lists (a : Account) (keys : DerivedKeys) : Prop where
  external : ∀ e ∈ keys.external, ∃ i, EntryAt a.master receiving i e
  change : ∀ e ∈ keys.change, ∃ i, EntryAt a.master changing i e

/-- Both branches have one entry for each of their places. -/
theorem entries_of_derive {a : Account} {external change : ChildRange} {keys : DerivedKeys}
    (h : a.derive external change = .ok keys) :
    List.Forall₂ (EntryAt a.master receiving) external.toList keys.external ∧
      List.Forall₂ (EntryAt a.master changing) change.toList keys.change := by
  have hkeys := mapError_eq_ok_iff.mp h
  obtain ⟨ext, hext, hkeys⟩ := bind_eq_ok_iff.mp hkeys
  obtain ⟨chg, hchg, hkeys⟩ := bind_eq_ok_iff.mp hkeys
  cases pure_eq_ok_iff.mp hkeys
  exact ⟨entries_of_deriveBranch hext, entries_of_deriveBranch hchg⟩

theorem lists_of_derive {a : Account} {external change : ChildRange} {keys : DerivedKeys}
    (h : a.derive external change = .ok keys) : a.Lists keys := by
  obtain ⟨hexternal, hchange⟩ := entries_of_derive h
  exact ⟨fun e he => exists_of_forall₂ hexternal.flip he, fun e he => exists_of_forall₂ hchange.flip he⟩

/-! ## Paths -/

theorem branchPath_receiving : branchPath receiving = "m/44'/309'/0'/" ++ "0" := by decide

theorem branchPath_changing : branchPath changing = "m/44'/309'/0'/" ++ "1" := by decide

/-- The branches part before the place. -/
theorem path_ne {place place' : String} :
    branchPath receiving ++ "/" ++ place ≠ branchPath changing ++ "/" ++ place' := by
  intro h
  rw [branchPath_receiving, branchPath_changing, String.append_assoc, String.append_assoc, String.append_assoc,
    String.append_assoc, String.append_right_inj] at h
  have hchars := congrArg String.toList h
  simp at hchars

variable {master : ExtendedKey} {branch : Nat} {i j : Int} {e f : KeyEntry}

theorem EntryAt.keyHash_eq (he : EntryAt master branch i e) (hf : EntryAt master branch j f) (h : e.path = f.path) :
    e.keyHash = f.keyHash := by
  obtain ⟨root, key, hroot, hkey, rfl⟩ := he
  obtain ⟨root', key', hroot', hkey', rfl⟩ := hf
  -- the text of the place decides, whatever its number
  have hplace : toString i = toString j := (String.append_right_inj _).mp h
  rw [hroot] at hroot'
  cases hroot'
  rw [← hplace, hkey] at hkey'
  cases hkey'
  rfl

theorem EntryAt.path_ne (he : EntryAt master receiving i e) (hf : EntryAt master changing j f) : e.path ≠ f.path := by
  obtain ⟨_, _, -, -, rfl⟩ := he
  obtain ⟨_, _, -, -, rfl⟩ := hf
  exact Account.path_ne

/-- **A path has one key.** -/
theorem Lists.keyHash_eq {a : Account} {keys : DerivedKeys} (h : a.Lists keys) :
    ∀ e ∈ keys.entries, ∀ f ∈ keys.entries, e.path = f.path → e.keyHash = f.keyHash := by
  intro e he f hf hpath
  rcases List.mem_append.mp he with he | he <;> rcases List.mem_append.mp hf with hf | hf
  · obtain ⟨i, he⟩ := h.external e he
    obtain ⟨j, hf⟩ := h.external f hf
    exact he.keyHash_eq hf hpath
  · obtain ⟨i, he⟩ := h.external e he
    obtain ⟨j, hf⟩ := h.change f hf
    exact absurd hpath (he.path_ne hf)
  · obtain ⟨i, he⟩ := h.change e he
    obtain ⟨j, hf⟩ := h.external f hf
    exact absurd hpath.symm (hf.path_ne he)
  · obtain ⟨i, he⟩ := h.change e he
    obtain ⟨j, hf⟩ := h.change f hf
    exact he.keyHash_eq hf hpath

end Account

namespace Expansion

variable {last : Bytes}

/-- What is taken is a beginning that ends with the wanted key. -/
theorem through_eq_some {entries found : List KeyEntry} (h : through last entries = some found) :
    found <+: entries ∧ ∃ e ∈ found, e.keyHash = last := by
  induction entries generalizing found with
  | nil => cases h
  | cons e r ih =>
    rw [through] at h
    by_cases he : e.keyHash = last
    · rw [if_pos he] at h
      cases h
      exact ⟨List.prefix_append [e] r, e, List.mem_singleton.mpr rfl, he⟩
    · rw [if_neg he] at h
      obtain ⟨rest, hrest, rfl⟩ := Option.map_eq_some_iff.mp h
      obtain ⟨hstart, f, hf, hlast⟩ := ih hrest
      exact ⟨List.cons_prefix_cons.mpr ⟨rfl, hstart⟩, f, List.mem_cons_of_mem _ hf, hlast⟩

/-- Entries that a search finds were there before or were derived, and the wanted key is among them. -/
theorem search_eq_some {ε : Type} {derive : ChildRange → ChildRange → Except ε DerivedKeys} {batch : Nat} {depth : Int}
    {P : KeyEntry → Prop} (hderive : ∀ external change keys, derive external change = .ok keys → ∀ e ∈ keys.change, P e)
    {n : Nat} {start : Int} {before found : List KeyEntry} (hbefore : ∀ e ∈ before, P e)
    (h : search derive last batch depth n start before = .ok (some found)) :
    (∀ e ∈ found, P e) ∧ ∃ e ∈ found, e.keyHash = last := by
  induction n generalizing start before with
  | zero => cases pure_eq_ok_iff.mp h
  | succ n ih =>
    rw [search] at h
    obtain ⟨keys, hkeys, h⟩ := bind_eq_ok_iff.mp h
    have hchange := hderive _ _ _ hkeys
    have hboth : ∀ r, (∀ e ∈ r, e ∈ keys.change) → ∀ e ∈ before ++ r, P e := fun r hr e he =>
      (List.mem_append.mp he).elim (hbefore e) fun he => hchange e (hr e he)
    cases hthrough : through last keys.change with
    | some r =>
      rw [hthrough] at h
      cases pure_eq_ok_iff.mp h
      obtain ⟨hstart, e, he, hlast⟩ := through_eq_some hthrough
      exact ⟨hboth r fun _ hr => hstart.subset hr, e, List.mem_append_right _ he, hlast⟩
    | none =>
      rw [hthrough] at h
      exact ih (hboth keys.change fun _ => id) h

end Expansion

/-- The keys up to an address for change are keys of the account, and the one of the address is among those for
change. -/
theorem Keyring.lists_of_expandToChange {ring : Keyring} {account : Bytes} {password : String} {receiving : Int}
    {last : Bytes} {depth : Int} {keys : DerivedKeys}
    (h : ring.expandToChange account password receiving last depth = .ok keys) :
    ∃ a, ring.unlock account password = .ok a ∧ a.Lists keys ∧ ∃ e ∈ keys.change, e.keyHash = last := by
  obtain ⟨a, ha, h⟩ := bind_eq_ok_iff.mp h
  obtain ⟨found, hfound, h⟩ := bind_eq_ok_iff.mp h
  cases found with
  | none => cases h
  | some all =>
    cases pure_eq_ok_iff.mp h
    obtain ⟨first, hfirst, hfound⟩ := bind_eq_ok_iff.mp hfound
    obtain ⟨change, hsearch, hfound⟩ := bind_eq_ok_iff.mp hfound
    obtain ⟨change, rfl, rfl⟩ := Option.map_eq_some_iff.mp (pure_eq_ok_iff.mp hfound)
    have hlists := Account.lists_of_derive hfirst
    obtain ⟨hchange, hlast⟩ := Expansion.search_eq_some
      (fun _ _ _ hk => (Account.lists_of_derive hk).change) hlists.change hsearch
    exact ⟨a, ha, ⟨hlists.external, hchange⟩, hlast⟩

/-! ## A sample -/

namespace Sample

theorem one_lt_order : 1 < Curve.order := by decide

/-- The root of an account. -/
def master : ExtendedKey := .ofSecret ⟨1, Nat.one_pos, one_lt_order, []⟩ (List.replicate 32 0x55) 0

/-- Its first key for change. -/
def entry : KeyEntry where
  path := "m/44'/309'/0'/1/0"
  keyHash := [185, 65, 84, 139, 75, 178, 147, 156, 157, 165, 240, 176, 167, 102, 241, 254, 119, 21, 22, 234]

theorem deriveBranch_master : Account.deriveBranch master Account.changing (.between 0 1) = .ok [entry] := by
  rw [← toOption_eq_some_iff]
  decide +kernel

/-- The name of the account. -/
def name : Bytes := List.replicate 20 0x77

def account : Account := ⟨master, [], Account.verifierOf "open" []⟩

def ring : Keyring := ⟨[(name, account)]⟩

theorem unlock_ring : ring.unlock name "open" = .ok account := by
  have hfound : ring.accounts.get? name = some account := if_pos rfl
  have hverifier : account.verifier = Account.verifierOf "open" account.salt := by dsimp only [account]
  unfold Keyring.unlock
  simp only [hfound, hverifier, if_true]

theorem derive_account : account.derive .none (.between 0 1) = .ok ⟨[], [entry]⟩ :=
  mapError_eq_ok_iff.mpr (bind_eq_ok_iff.mpr ⟨[], rfl, bind_eq_ok_iff.mpr ⟨[entry], deriveBranch_master, rfl⟩⟩)

theorem expandToChange_ring : ring.expandToChange name "open" 0 entry.keyHash 1 = .ok ⟨[], [entry]⟩ := by
  have hfirst : account.derive (.below 0) .none = .ok ⟨[], []⟩ := rfl
  have hsearch : Expansion.search account.derive entry.keyHash 100 1 1 0 [] = .ok (some [entry]) :=
    bind_eq_ok_iff.mpr ⟨_, derive_account, rfl⟩
  refine bind_eq_ok_iff.mpr ⟨account, unlock_ring, bind_eq_ok_iff.mpr ⟨some ⟨[], [entry]⟩, ?_, rfl⟩⟩
  exact bind_eq_ok_iff.mpr ⟨_, hfirst, bind_eq_ok_iff.mpr ⟨_, hsearch, rfl⟩⟩

end Sample

end CellPurse
