import CellPurse.Proofs.Keys.Derived
import Mathlib.Data.List.Nodup

/-!
# CellPurse.Proofs.Keys.Expansion — the search in batches against the plain one

Keys for change are asked for in batches until the wanted one is there.  What comes of it is what one request for the
keys up to the wanted one gives, wherever the batches end.

* `Expansion.search_loop`: the search goes on as long as its start is below the depth;
* `KeyTable`: one key for each place of both branches; `Expansion.Serves`: a derivation lists the keys of a table,
  however a range is split;
* `Expansion.demand`: the search for a key that must be there; `Keyring.expandToChange_eq_demand`: this is how a keyring
  searches;
* `Expansion.demand_eq_expand`: the search finds what one request gives, or fails, and asks for no place twice;
* `Keyring.expandToChange_eq_expand`: so it is with an account whose keys can be derived up to the depth.
-/

namespace CellPurse

open Outcome

/-! ## Ranges in parts -/

namespace ChildRange

variable {a b c i : Int}

theorem toList_between (a b : Int) : (between a b).toList = (List.range (b - a).toNat).map fun k : Nat => a + k := by
  unfold toList size between
  simp

theorem below_eq (b : Int) : below b = between 0 b := rfl

theorem mem_between : i ∈ (between a b).toList ↔ a ≤ i ∧ i < b := by
  simp only [toList_between, List.mem_map, List.mem_range]
  constructor
  · rintro ⟨k, hk, rfl⟩
    omega
  · intro h
    exact ⟨(i - a).toNat, by omega, by omega⟩

theorem nodup_between (a b : Int) : (between a b).toList.Nodup := by
  rw [toList_between]
  refine List.nodup_range.map fun j k h => ?_
  have h : a + (j : Int) = a + k := h
  omega

theorem between_append (hab : a ≤ b) (hbc : b ≤ c) :
    (between a b).toList ++ (between b c).toList = (between a c).toList := by
  obtain ⟨n, rfl⟩ := Int.le.dest hab
  obtain ⟨k, rfl⟩ := Int.le.dest hbc
  have hfirst : (a + n - a).toNat = n := by omega
  have hrest : (a + n + k - (a + n)).toNat = k := by omega
  have hwhole : (a + n + k - a).toNat = n + k := by omega
  rw [toList_between, toList_between, toList_between, hfirst, hrest, hwhole, List.range_add, List.map_append,
    List.map_map]
  congr 1
  refine List.map_congr_left fun j _ => ?_
  simp only [Function.comp, Int.natCast_add]
  omega

theorem between_eq_nil (h : b ≤ a) : (between a b).toList = [] := by
  rw [toList_between, Int.toNat_of_nonpos (by omega)]
  rfl

theorem between_succ (a : Int) : (between a (a + 1)).toList = [a] := by
  rw [toList_between, show (a + 1 - a).toNat = 1 by omega]
  simp

end ChildRange

namespace Expansion

/-! ## The loop -/

theorem batches_eq {batch : Nat} (hbatch : 0 < batch) (d : Int) :
    batches batch d = if 0 < d then batches batch (d - min (batch : Int) d) + 1 else 0 := by
  have hpos : (0 : Int) < batch := by omega
  unfold batches
  by_cases hd : 0 < d
  · rw [if_pos hd]
    rcases Int.le_total (batch : Int) d with hle | hle
    · have hstep : d + batch - 1 = d - batch + batch - 1 + 1 * batch := by omega
      have hnonneg : 0 ≤ (d - batch + batch - 1) / batch := Int.ediv_nonneg (by omega) (by omega)
      rw [Int.min_eq_left hle, hstep, Int.add_mul_ediv_right _ _ (Int.ne_of_gt hpos)]
      omega
    · have hstep : d + batch - 1 = d - 1 + 1 * batch := by omega
      have hone : (d - 1) / (batch : Int) = 0 := Int.ediv_eq_zero_of_lt (by omega) (by omega)
      have hzero : (d - d + batch - 1) / (batch : Int) = 0 := Int.ediv_eq_zero_of_lt (by omega) (by omega)
      rw [Int.min_eq_right hle, hstep, Int.add_mul_ediv_right _ _ (Int.ne_of_gt hpos), hone, hzero]
      rfl
  · have hlt : (d + batch - 1) / batch < 1 := Int.ediv_lt_of_lt_mul hpos (by omega)
    rw [if_neg hd]
    omega

variable {m : Type → Type} [Monad m] {derive : ChildRange → ChildRange → m DerivedKeys} {last : Bytes} {batch : Nat}
  {depth : Int}

/-- The search goes on as long as its start is below the depth. -/
theorem search_loop (hbatch : 0 < batch) (start : Int) (before : List KeyEntry) :
    search derive last batch depth (batches batch (depth - start)) start before =
      if start < depth then
        derive .none (.between start (min (start + batch) depth)) >>= fun keys =>
          (through last keys.change).elim
            (search derive last batch depth (batches batch (depth - min (start + batch) depth))
              (min (start + batch) depth) (before ++ keys.change))
            fun found => pure (some (before ++ found))
      else pure none := by
  rw [batches_eq hbatch]
  by_cases h : start < depth
  · have hrest : depth - start - min (batch : Int) (depth - start) = depth - min (start + batch) depth := by omega
    rw [if_pos h, if_pos (by omega), search, hrest]
    refine bind_congr fun keys => ?_
    cases through last keys.change with
    | none => rfl
    | some found => rfl
  · rw [if_neg h, if_neg (by omega), search]

/-! ## What is taken -/

theorem through_eq_none_iff {entries : List KeyEntry} :
    through last entries = none ↔ ∀ e ∈ entries, e.keyHash ≠ last := by
  induction entries with
  | nil => simp [through]
  | cons e r ih =>
    rw [through]
    by_cases he : e.keyHash = last <;> simp [he, ih]

theorem through_append {front rest : List KeyEntry} (hfront : through last front = none) :
    through last (front ++ rest) = (through last rest).map (front ++ ·) := by
  induction front with
  | nil => simp
  | cons e r ih =>
    rw [through_eq_none_iff, List.forall_mem_cons, ← through_eq_none_iff] at hfront
    rw [List.cons_append, through, if_neg hfront.1, ih hfront.2, Option.map_map]
    rfl

theorem through_append_of_some {front rest found : List KeyEntry} (hfront : through last front = some found) :
    through last (front ++ rest) = some found := by
  induction front generalizing found with
  | nil => cases hfront
  | cons e r ih =>
    rw [through] at hfront
    rw [List.cons_append, through]
    by_cases he : e.keyHash = last
    · rw [if_pos he] at hfront ⊢
      exact hfront
    · rw [if_neg he] at hfront ⊢
      obtain ⟨tail, htail, rfl⟩ := Option.map_eq_some_iff.mp hfront
      rw [ih htail]
      rfl

end Expansion

/-! ## Tables of keys -/

/-- One key for each place of both branches. -/
structure KeyTable where
  external : Int → KeyEntry
  change : Int → KeyEntry

namespace KeyTable

variable (t : KeyTable)

/-- The keys at some places of both branches. -/
def keys (external change : ChildRange) : DerivedKeys :=
  ⟨external.toList.map t.external, change.toList.map t.change⟩

/-- The key of a place is the first one with a given hash, below a depth. -/
structure IsFirst (last : Bytes) (depth k : Int) : Prop where
  nonneg : 0 ≤ k
  lt_depth : k < depth
  hash : (t.change k).keyHash = last
  least : ∀ i, 0 ≤ i → i < k → (t.change i).keyHash ≠ last

variable {t} {last : Bytes} {depth k : Int}

theorem IsFirst.through_eq (h : t.IsFirst last depth k) :
    Expansion.through last ((ChildRange.below depth).toList.map t.change) =
      some ((ChildRange.below (k + 1)).toList.map t.change) := by
  have hsplit : ∀ {n : Int}, k < n → (ChildRange.below n).toList =
      (ChildRange.between 0 k).toList ++ k :: (ChildRange.between (k + 1) n).toList := by
    intro n hn
    have hk := h.nonneg
    rw [← List.singleton_append, ← ChildRange.between_succ, ChildRange.between_append (by omega) (by omega),
      ChildRange.between_append hk (by omega)]
    rfl
  have hbefore : Expansion.through last ((ChildRange.between 0 k).toList.map t.change) = none := by
    rw [Expansion.through_eq_none_iff, List.forall_mem_map]
    intro i hi
    obtain ⟨h0, hk⟩ := ChildRange.mem_between.mp hi
    exact h.least i h0 hk
  have hafter : (ChildRange.between (k + 1) (k + 1)).toList = [] := ChildRange.between_eq_nil (by omega)
  rw [hsplit h.lt_depth, hsplit (Int.lt_succ k), hafter, List.map_append, List.map_append,
    Expansion.through_append hbefore, List.map_cons, Expansion.through, if_pos h.hash]
  rfl

theorem through_eq_none (h : ∀ i, 0 ≤ i → i < depth → (t.change i).keyHash ≠ last) :
    Expansion.through last ((ChildRange.below depth).toList.map t.change) = none := by
  rw [Expansion.through_eq_none_iff, List.forall_mem_map]
  intro i hi
  obtain ⟨h0, hdepth⟩ := ChildRange.mem_between.mp hi
  exact h i h0 hdepth

end KeyTable

namespace Expansion

variable {m : Type → Type}

/-- The first keys of both branches, in one request. -/
def expand (derive : ChildRange → ChildRange → m DerivedKeys) (receiving change : Int) : m DerivedKeys :=
  derive (.below receiving) (.below change)

variable [Monad m]

/-- The search for a key for change that must be there. -/
def demand [MonadExceptOf KeyringFault m] (derive : ChildRange → ChildRange → m DerivedKeys) (batch : Nat)
    (receiving : Int) (last : Bytes) (depth : Int) : m DerivedKeys :=
  toChange derive batch receiving last depth >>= fun found => found.elim (throw (.changeNotFound last depth)) pure

/-- A derivation lists the keys of a table, however a range is split, as long as the places for change are below a
depth.  Whatever else it does, it does at each request. -/
def Serves (derive : ChildRange → ChildRange → m DerivedKeys) (ask : ChildRange → ChildRange → m PUnit) (t : KeyTable)
    (receiving depth : Int) : Prop :=
  ∀ external change, (external = .below receiving ∨ external = .none) → (∀ i ∈ change.toList, 0 ≤ i ∧ i < depth) →
    derive external change = ask external change >>= fun _ => pure (t.keys external change)

variable [LawfulMonad m] {derive : ChildRange → ChildRange → m DerivedKeys} {ask : ChildRange → ChildRange → m PUnit}
  {t : KeyTable} {receiving depth : Int} {batch : Nat}

/-- The requests of a search cover the places from its start on, each once, as far as they go. -/
theorem search_eq (hserves : Serves derive ask t receiving depth) (hbatch : 0 < batch) (last : Bytes) {start : Int}
    (hstart : 0 ≤ start) (before : List KeyEntry) : ∃ (asked : List ChildRange) (stop : Int),
      asked.flatMap ChildRange.toList = (ChildRange.between start stop).toList ∧ (start ≤ stop ∧ stop ≤ max start depth) ∧
      search derive last batch depth (batches batch (depth - start)) start before =
        asked.forM (ask .none) >>= fun _ =>
          pure ((through last ((ChildRange.between start depth).toList.map t.change)).map (before ++ ·)) := by
  -- the loop comes to its end: each round leaves fewer places below the depth
  obtain ⟨n, hn⟩ : ∃ n, n = (depth - start).toNat := ⟨_, rfl⟩
  induction n using Nat.strongRecOn generalizing start before with
  | ind n ih =>
    rw [search_loop hbatch]
    by_cases h : start < depth
    swap
    · refine ⟨[], start, ?_, ⟨Int.le_refl _, by omega⟩, ?_⟩
      · rw [ChildRange.between_eq_nil (Int.le_refl _)]
        rfl
      · rw [if_neg h, ChildRange.between_eq_nil (by omega)]
        simp [through]
    obtain ⟨stop, hstop⟩ : ∃ stop, stop = min (start + (batch : Int)) depth := ⟨_, rfl⟩
    have hasked : derive .none (.between start stop) =
        ask .none (.between start stop) >>= fun _ => pure (t.keys .none (.between start stop)) :=
      hserves _ _ (.inr rfl) fun i hi => by
        obtain ⟨h0, h1⟩ := ChildRange.mem_between.mp hi
        omega
    have hsplit : (ChildRange.between start depth).toList.map t.change =
        (t.keys .none (.between start stop)).change ++ (ChildRange.between stop depth).toList.map t.change := by
      rw [← ChildRange.between_append (by omega : start ≤ stop) (by omega), List.map_append]
      rfl
    rw [if_pos h, ← hstop, hasked, hsplit, bind_assoc]
    simp only [pure_bind]
    cases hthrough : through last (t.keys .none (.between start stop)).change with
    | some found =>
      refine ⟨[.between start stop], stop, by simp, by omega, ?_⟩
      rw [through_append_of_some hthrough]
      simp
    | none =>
      obtain ⟨asked, reach, hplaces, hbounds, hrest⟩ := ih (depth - stop).toNat (by omega) (by omega : 0 ≤ stop)
        (before ++ (t.keys .none (.between start stop)).change) rfl
      refine ⟨.between start stop :: asked, reach, ?_, by omega, ?_⟩
      · rw [List.flatMap_cons, hplaces, ChildRange.between_append (by omega) (by omega)]
      · rw [through_append hthrough, Option.elim, hrest]
        simp [Function.comp_def]

theorem toChange_eq (hserves : Serves derive ask t receiving depth) (hbatch : 0 < batch) (last : Bytes) :
    ∃ (asked : List ChildRange) (stop : Int), asked.flatMap ChildRange.toList = (ChildRange.between 0 stop).toList ∧
      stop ≤ max 0 depth ∧ toChange derive batch receiving last depth =
        ask (.below receiving) .none >>= fun _ => asked.forM (ask .none) >>= fun _ =>
          pure ((through last ((ChildRange.below depth).toList.map t.change)).map fun change =>
            ⟨(ChildRange.below receiving).toList.map t.external, change⟩) := by
  have hfirst := hserves (.below receiving) .none (.inl rfl) (List.forall_mem_nil _)
  have hnone : (t.keys (.below receiving) .none).change = [] := rfl
  obtain ⟨asked, stop, hplaces, hbounds, hsearch⟩ := search_eq hserves hbatch last (Int.le_refl 0) []
  refine ⟨asked, stop, hplaces, hbounds.2, ?_⟩
  rw [Int.sub_zero] at hsearch
  unfold toChange
  rw [hfirst]
  simp only [bind_assoc, pure_bind, hnone, hsearch, List.nil_append, Option.map_id']
  rfl

variable [MonadExceptOf KeyringFault m]

theorem demand_of_isFirst {asked : m PUnit} {last : Bytes} {k : Int} (hk : t.IsFirst last depth k)
    (hsearch : toChange derive batch receiving last depth = asked >>= fun _ =>
      pure ((through last ((ChildRange.below depth).toList.map t.change)).map fun change =>
        ⟨(ChildRange.below receiving).toList.map t.external, change⟩)) :
    demand derive batch receiving last depth = asked >>= fun _ => pure (t.keys (.below receiving) (.below (k + 1))) := by
  unfold demand
  rw [hsearch, hk.through_eq, bind_assoc]
  simp only [pure_bind]
  rfl

theorem demand_of_none {asked : m PUnit} {last : Bytes}
    (hnone : ∀ i, 0 ≤ i → i < depth → (t.change i).keyHash ≠ last)
    (hsearch : toChange derive batch receiving last depth = asked >>= fun _ =>
      pure ((through last ((ChildRange.below depth).toList.map t.change)).map fun change =>
        ⟨(ChildRange.below receiving).toList.map t.external, change⟩)) :
    demand derive batch receiving last depth = asked >>= fun _ => throw (.changeNotFound last depth) := by
  unfold demand
  rw [hsearch, KeyTable.through_eq_none hnone, bind_assoc]
  simp only [pure_bind]
  rfl

end Expansion

/-! ## Accounts -/

namespace Account

/-- The key at a place of a branch, with its path. -/
def entryOf (master : ExtendedKey) (branch : Nat) (i : Int) : Except PathFault KeyEntry := do
  let root ← master.derive (branchPath branch)
  let place ← (Literal.decimal i).mapError .literal
  let key ← root.derive ("m/" ++ place)
  pure ⟨branchPath branch ++ "/" ++ place, key.keyHash⟩

theorem deriveBranch_eq_mapM (master : ExtendedKey) (branch : Nat) (places : ChildRange) :
    deriveBranch master branch places = places.toList.mapM (entryOf master branch) := by
  unfold deriveBranch
  by_cases hsize : places.size = 0
  · have hnone : places.toList = [] := by
      unfold ChildRange.toList
      rw [hsize]
      rfl
    rw [if_pos hsize, hnone]
    rfl
  rw [if_neg hsize]
  cases hroot : master.derive (branchPath branch) with
  | error f =>
    obtain ⟨n, hn⟩ := Nat.exists_eq_succ_of_ne_zero hsize
    have hfirst : entryOf master branch (places.start + places.step * (0 : Nat)) = .error f :=
      bind_eq_error_iff.mpr (.inl hroot)
    unfold ChildRange.toList
    rw [hn, List.range_succ_eq_map, List.map_cons, List.mapM_cons, hfirst]
    rfl
  | ok root =>
    show places.collect _ = _
    rw [ChildRange.collect_eq_mapM]
    refine congrArg (places.toList.mapM ·) (funext fun i => ?_)
    unfold entryOf
    rw [hroot, ok_bind]

/-- Where keys can be derived at all places of a range, they are the same in every part of it. -/
theorem exists_entries {master : ExtendedKey} {branch : Nat} {places : ChildRange} {entries : List KeyEntry}
    (h : deriveBranch master branch places = .ok entries) : ∃ f : Int → KeyEntry, ∀ part : ChildRange,
      (∀ i ∈ part.toList, i ∈ places.toList) → deriveBranch master branch part = .ok (part.toList.map f) := by
  rw [deriveBranch_eq_mapM, mapM_eq_ok_iff] at h
  refine ⟨fun i => (entryOf master branch i).toOption.getD ⟨"", []⟩, fun part hpart => ?_⟩
  rw [deriveBranch_eq_mapM, mapM_eq_ok_iff, List.forall₂_map_right_iff, List.forall₂_same]
  intro i hi
  obtain ⟨e, he⟩ := exists_of_forall₂ h (hpart i hi)
  rw [he]
  rfl

/-- An account whose keys can be derived up to a depth lists the keys of a table. -/
theorem exists_serves {a : Account} {receiving depth : Int} {all : DerivedKeys}
    (h : a.derive (.below receiving) (.below depth) = .ok all) :
    ∃ t : KeyTable, Expansion.Serves a.derive (fun _ _ => .ok ()) t receiving depth ∧
      all = t.keys (.below receiving) (.below depth) := by
  obtain ⟨external, hexternal, hrest⟩ := bind_eq_ok_iff.mp (mapError_eq_ok_iff.mp h)
  obtain ⟨change, hchange, hall⟩ := bind_eq_ok_iff.mp hrest
  obtain ⟨f, hf⟩ := exists_entries hexternal
  obtain ⟨g, hg⟩ := exists_entries hchange
  have hkeys : ∀ external change, (external = .below receiving ∨ external = .none) →
      (∀ i ∈ change.toList, 0 ≤ i ∧ i < depth) →
      a.derive external change = .ok (KeyTable.keys ⟨f, g⟩ external change) := by
    intro external change hext hchg
    refine mapError_eq_ok_iff.mpr (bind_eq_ok_iff.mpr ⟨_, hf external ?_, bind_eq_ok_iff.mpr ⟨_, hg change ?_, rfl⟩⟩)
    · rintro i hi
      rcases hext with rfl | rfl
      · exact hi
      · exact absurd hi List.not_mem_nil
    · exact fun i hi => ChildRange.mem_between.mpr (hchg i hi)
  refine ⟨⟨f, g⟩, hkeys, Except.ok.inj (h.symm.trans (hkeys _ _ (.inl rfl) fun i hi => ?_))⟩
  exact ChildRange.mem_between.mp hi

end Account

namespace Keyring

/-- This is how a keyring searches. -/
theorem expandToChange_eq_demand (ring : Keyring) (account : Bytes) (password : String) (receiving : Int)
    (last : Bytes) (depth : Int) : ring.expandToChange account password receiving last depth =
      Expansion.demand (ring.derive account password) Expansion.batchSize receiving last depth := by
  cases hunlock : ring.unlock account password with
  | error f =>
    have hderive : ring.derive account password = fun _ _ => .error f := by
      funext external change
      unfold derive
      rw [hunlock]
      rfl
    unfold expandToChange
    rw [hunlock, hderive]
    rfl
  | ok a =>
    have hderive : ring.derive account password = a.derive := by
      funext external change
      unfold derive
      rw [hunlock]
      rfl
    unfold expandToChange Expansion.demand
    rw [hunlock, hderive]
    show (Expansion.toChange a.derive Expansion.batchSize receiving last depth).bind _ = Except.bind _ _
    cases Expansion.toChange a.derive Expansion.batchSize receiving last depth with
    | error f => rfl
    | ok found =>
      cases found with
      | none => rfl
      | some keys => rfl

/-- An account whose keys can be derived up to the depth is searched as its keys lie there: what comes of it is what
one request for the keys up to the wanted one gives. -/
theorem expandToChange_eq_expand {ring : Keyring} {account : Bytes} {password : String} {receiving depth : Int}
    {all : DerivedKeys} (hall : ring.expand account password receiving depth = .ok all) (last : Bytes) :
    ring.expandToChange account password receiving last depth =
      (all.change.findIdx? fun e => e.keyHash = last).elim (.error (.changeNotFound last depth))
        fun k => ring.expand account password receiving (k + 1) := by
  obtain ⟨a, hunlock, hderive⟩ := bind_eq_ok_iff.mp hall
  obtain ⟨t, hserves, rfl⟩ := Account.exists_serves hderive
  have hring : ring.derive account password = a.derive := by
    funext external change
    unfold derive
    rw [hunlock]
    rfl
  obtain ⟨asked, -, -, -, hsearch⟩ := Expansion.toChange_eq hserves (by decide : 0 < Expansion.batchSize) last
  have hsilent : asked.forM (fun _ => (.ok () : Except KeyringFault PUnit)) = .ok () := by
    clear hsearch
    induction asked with
    | nil => rfl
    | cons c r ih => exact ih
  rw [hsilent, ← bind_assoc] at hsearch
  have hentry : ∀ k (hk : k < ((ChildRange.below depth).toList.map t.change).length),
      ((ChildRange.below depth).toList.map t.change)[k] = t.change k := by
    intro k hk
    simp [ChildRange.below_eq, ChildRange.toList_between]
  have hlength : ((ChildRange.below depth).toList.map t.change).length = depth.toNat := by
    simp [ChildRange.below_eq, ChildRange.toList_between]
  have hexpand : ∀ k, t.IsFirst last depth k →
      ring.expand account password receiving (k + 1) = .ok (t.keys (.below receiving) (.below (k + 1))) := by
    intro k hk
    unfold expand
    rw [hring, hserves _ _ (.inl rfl) fun i hi => ?_]
    · rfl
    · obtain ⟨h0, hle⟩ := ChildRange.mem_between.mp hi
      have := hk.lt_depth
      omega
  rw [expandToChange_eq_demand, hring]
  cases hfind : (t.keys (.below receiving) (.below depth)).change.findIdx? fun e => e.keyHash = last with
  | none =>
    refine Expansion.demand_of_none (fun i h0 hlt heq => ?_) hsearch
    rw [List.findIdx?_eq_none_iff] at hfind
    have hmem : t.change i ∈ (t.keys (.below receiving) (.below depth)).change :=
      List.mem_map.mpr ⟨i, ChildRange.mem_between.mpr ⟨h0, hlt⟩, rfl⟩
    simpa [heq] using hfind _ hmem
  | some k =>
    obtain ⟨hk, hhash, hleast⟩ := List.findIdx?_eq_some_iff_getElem.mp hfind
    have hfirst : t.IsFirst last depth k := by
      have hlt : k < depth.toNat := hlength ▸ hk
      refine ⟨Int.natCast_nonneg k, by omega, ?_, fun i h0 hi => ?_⟩
      · rw [← hentry k hk]
        exact of_decide_eq_true hhash
      · obtain ⟨j, rfl⟩ := Int.eq_ofNat_of_zero_le h0
        have hj : j < k := Int.ofNat_lt.mp hi
        have hother := hleast j hj
        rw [← hentry j (Nat.lt_trans hj hk)]
        exact fun heq => hother (decide_eq_true heq)
    rw [Option.elim, hexpand k hfirst]
    exact Expansion.demand_of_isFirst hfirst hsearch

end Keyring

/-- **A search in batches finds what one request gives.**  Let a derivation list one key for each place, however a range
is split, and do something at each request, such as writing it down.  Then the search asks for the keys to receive, and
for keys for change at places below the depth, for none of them twice.  If there is a wanted key below the depth, what
comes of it is what one request gives for the keys up to the first such key; if there is none, it is told that the key
is missing.  So searches a keyring, a hundred places at a time. -/
theorem Expansion.demand_eq_expand {m : Type → Type} [Monad m] [LawfulMonad m] [MonadExceptOf KeyringFault m]
    {derive : ChildRange → ChildRange → m DerivedKeys} {ask : ChildRange → ChildRange → m PUnit} {t : KeyTable}
    {receiving depth : Int} {batch : Nat} (hserves : Serves derive ask t receiving depth) (hbatch : 0 < batch)
    (last : Bytes) :
    (∃ asked : List ChildRange, (asked.flatMap ChildRange.toList).Nodup ∧
      (∀ i ∈ asked.flatMap ChildRange.toList, 0 ≤ i ∧ i < depth) ∧
      (∀ k, t.IsFirst last depth k →
        expand derive receiving (k + 1) =
          (ask (.below receiving) (.below (k + 1)) >>= fun _ => pure (t.keys (.below receiving) (.below (k + 1)))) ∧
        demand derive batch receiving last depth = ask (.below receiving) .none >>= fun _ =>
          asked.forM (ask .none) >>= fun _ => pure (t.keys (.below receiving) (.below (k + 1)))) ∧
      ((∀ i, 0 ≤ i → i < depth → (t.change i).keyHash ≠ last) → demand derive batch receiving last depth =
        ask (.below receiving) .none >>= fun _ => asked.forM (ask .none) >>= fun _ =>
          throw (.changeNotFound last depth))) ∧
    ∀ (ring : Keyring) account password, ring.expandToChange account password receiving last depth =
      demand (ring.derive account password) batchSize receiving last depth := by
  refine ⟨?_, fun ring account password => ring.expandToChange_eq_demand account password receiving last depth⟩
  obtain ⟨asked, stop, hplaces, hstop, hsearch⟩ := toChange_eq hserves hbatch last
  rw [← bind_assoc] at hsearch
  refine ⟨asked, ?_, ?_, fun k hk => ?_, fun hnone => ?_⟩
  · rw [hplaces]
    exact ChildRange.nodup_between 0 stop
  · intro i hi
    rw [hplaces, ChildRange.mem_between] at hi
    omega
  · refine ⟨hserves _ _ (.inl rfl) fun i hi => ?_, ?_⟩
    · obtain ⟨h0, hle⟩ := ChildRange.mem_between.mp hi
      have := hk.lt_depth
      omega
    · rw [← bind_assoc]
      exact demand_of_isFirst hk hsearch
  · rw [← bind_assoc]
    exact demand_of_none hnone hsearch

namespace Expansion.Sample

/-- A store of keys that writes down what it is asked for. -/
abbrev Recorded := ExceptT KeyringFault (StateM (List (ChildRange × ChildRange)))

/-- A key whose hash is its place. -/
def place (branch : String) (i : Int) : KeyEntry := ⟨branch ++ "/" ++ toString i, Bytes.ofNatBE 2 i.toNat⟩

def table : KeyTable := ⟨place "receiving", place "change"⟩

def write (external change : ChildRange) : Recorded PUnit := modify (· ++ [(external, change)])

def derive (external change : ChildRange) : Recorded DerivedKeys :=
  write external change >>= fun _ => pure (table.keys external change)

theorem isFirst_place : table.IsFirst [0, 200] 250 200 where
  nonneg := by decide
  lt_depth := by decide
  hash := by decide
  least i h0 h := by
    have hall : ∀ n < 200, Bytes.ofNatBE 2 n ≠ [0, 200] := by decide +kernel
    exact hall i.toNat (by omega)

end Expansion.Sample

open Expansion.Sample in
/-- The wanted key is the first of the third batch, which is the last one and not full. -/
theorem Expansion.demand_eq_expand_sample : Serves Expansion.Sample.derive write table 3 250 ∧ 0 < batchSize ∧
    table.IsFirst [0, 200] 250 200 ∧ ∃ asked : List ChildRange, (asked.flatMap ChildRange.toList).Nodup ∧
      demand Expansion.Sample.derive batchSize 3 [0, 200] 250 = write (.below 3) .none >>= fun _ =>
        asked.forM (write .none) >>= fun _ => pure (table.keys (.below 3) (.below 201)) := by
  have hserves : Serves Expansion.Sample.derive write table 3 250 := fun _ _ _ _ => rfl
  obtain ⟨⟨asked, hnodup, -, hfound, -⟩, -⟩ := demand_eq_expand hserves (by decide : 0 < batchSize) [0, 200]
  exact ⟨hserves, by decide, isFirst_place, asked, hnodup, (hfound 200 isFirst_place).2⟩

end CellPurse
