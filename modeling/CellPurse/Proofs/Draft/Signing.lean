import CellPurse.Proofs.Draft.Steps
import CellPurse.Proofs.Ledger.Multisig

/-!
# CellPurse.Proofs.Draft.Signing — what the witness of a lock holds

* `Reachable genesis d`: steps lead from a fresh draft to `d`;
* `Sound`: what holds of the policies and signatures of such a draft, by one lemma for each step; `Reachable.sound`;
* `Signed d lock part`: `part` is one signature, or a policy with as many distinct signatures as it asks for;
  `signed_of_signedLock`: what a finished draft has for a lock is of this form;
* `zeroSlots`: zeros in place of the signatures; `Signed.placeholder_eq`: this is what was signed.
-/

namespace CellPurse.Draft

open Outcome

/-- The drafts that steps lead to.  A step that fails leads nowhere, and to ask what has to be signed changes
nothing. -/
inductive Reachable (genesis : Genesis) : Draft → Prop where
  | fresh : Reachable genesis { genesis }
  | policy {d d' : Draft} {keys : List Bytes} {requireFirst threshold : Int} {policy : Multisig}
      (before : Reachable genesis d) (made : Multisig.make keys requireFirst threshold = .ok policy)
      (step : d.addPolicy policy = .ok d') : Reachable genesis d'
  | input {d d' : Draft} {point : OutPoint} {cell : CellOutput} {skipCheck : Bool} (before : Reachable genesis d)
      (step : d.addInput point cell skipCheck = .ok d') : Reachable genesis d'
  | output {d d' : Draft} {output : CellOutput} {data : Bytes} (before : Reachable genesis d)
      (step : d.addOutput output data = .ok d') : Reachable genesis d'
  | signature {d d' : Draft} {lock : Script} {signature : Bytes} (before : Reachable genesis d)
      (step : d.addSignature lock signature = .ok d') : Reachable genesis d'
  | finish {d d' : Draft} {tx : Transaction} (before : Reachable genesis d) (step : d.finish = .ok (tx, d')) :
      Reachable genesis d'

/-- The policies are accepted ones, and the signatures of a lock are distinct and of the right size. -/
structure Sound (d : Draft) : Prop where
  policies : ∀ hash policy, d.policies.get? hash = some policy → policy.Valid
  distinct : ∀ lock, (d.signaturesOf lock).Nodup
  size : ∀ lock, ∀ s ∈ d.signaturesOf lock, s.length = System.signatureSize

section Steps

variable {d d' : Draft}

theorem Sound.addPolicy (hd : d.Sound) {policy : Multisig} (hp : policy.Valid) (h : d.addPolicy policy = .ok d') :
    d'.Sound := by
  obtain ⟨-, hash, -, rfl⟩ := addPolicy_eq_ok_iff.mp h
  refine { hd with policies := fun other found hfound => ?_ }
  rw [Assoc.get?_set] at hfound
  split_ifs at hfound
  · exact Option.some.inj hfound ▸ hp
  · exact hd.policies other found hfound

theorem nodup_joined {group : List Bytes} (hg : group.Nodup) (signature : Bytes) : (joined group signature).Nodup := by
  unfold joined
  split_ifs with h
  · exact hg
  · refine List.nodup_append.mpr ⟨hg, List.nodup_singleton _, fun x hx y hy hxy => h ?_⟩
    exact List.contains_iff_mem.mpr (List.mem_singleton.mp hy ▸ hxy ▸ hx)

theorem mem_joined {group : List Bytes} {signature s : Bytes} (h : s ∈ joined group signature) :
    s ∈ group ∨ s = signature := by
  unfold joined at h
  split_ifs at h
  · exact .inl h
  · simpa using h

/-- The signatures of each lock stay distinct. -/
theorem distinct_set_joined (hd : ∀ lock, (d.signaturesOf lock).Nodup) (lock : Script) (signature : Bytes)
    (other : Script) : (signaturesOf { d with
      signatures := d.signatures.set lock (joined (d.signaturesOf lock) signature) } other).Nodup := by
  rw [signaturesOf_set]
  split_ifs
  · exact nodup_joined (hd lock) signature
  · exact hd other

/-- The signatures of each lock stay of the right size. -/
theorem size_set_joined (hd : ∀ lock, ∀ s ∈ d.signaturesOf lock, s.length = System.signatureSize) (lock : Script)
    {signature : Bytes} (hsize : signature.length = System.signatureSize) (other : Script) : ∀ s ∈ signaturesOf { d with
      signatures := d.signatures.set lock (joined (d.signaturesOf lock) signature) } other,
      s.length = System.signatureSize := by
  intro s hs
  rw [signaturesOf_set] at hs
  split_ifs at hs
  · rcases mem_joined hs with hs | rfl
    · exact hd lock s hs
    · exact hsize
  · exact hd other s hs

theorem Sound.addSignature (hd : d.Sound) {lock : Script} {signature : Bytes}
    (h : d.addSignature lock signature = .ok d') : d'.Sound := by
  obtain ⟨-, hsize, rfl⟩ := addSignature_eq_ok_iff.mp h
  exact { hd with distinct := distinct_set_joined hd.distinct lock signature, size := size_set_joined hd.size lock hsize }

/-- **Every draft that steps lead to is sound.** -/
theorem Reachable.sound {genesis : Genesis} (h : Reachable genesis d) : d.Sound := by
  induction h with
  | fresh => exact ⟨nofun, fun _ => List.nodup_nil, nofun⟩
  | policy _ made step ih => exact ih.addPolicy (Multisig.make_eq_ok_iff.mp made).2 step
  | input _ step ih =>
    obtain ⟨-, -, rfl⟩ := addInput_eq_ok_iff.mp step
    exact ⟨ih.policies, ih.distinct, ih.size⟩
  | output _ step ih =>
    obtain ⟨-, rfl⟩ := addOutput_eq_ok_iff.mp step
    exact ⟨ih.policies, ih.distinct, ih.size⟩
  | signature _ step ih => exact ih.addSignature step
  | finish _ step ih =>
    obtain ⟨_, -, -, rfl⟩ := finish_eq_ok_iff.mp step
    exact ⟨ih.policies, ih.distinct, ih.size⟩

end Steps

/-! ## The part of a lock -/

section Signed

variable {d : Draft} {lock : Script} {part : Bytes}

/-- What the witness of a lock holds: a signature, or a policy and as many distinct signatures as it asks for. -/
inductive Signed (d : Draft) (lock : Script) : Bytes → Prop where
  | single {signature : Bytes} (single : lock.isMultisig = false) (mem : signature ∈ d.signaturesOf lock)
      (size : signature.length = System.signatureSize) : Signed d lock signature
  | policy {policy : Multisig} {data : Bytes} {signatures : List Bytes} (multi : lock.isMultisig = true)
      (known : d.policyOf lock = .ok policy) (valid : policy.Valid) (bytes : policy.witnessData = .ok data)
      (count : signatures.length = policy.threshold.toNat) (distinct : signatures.Nodup)
      (mem : ∀ s ∈ signatures, s ∈ d.signaturesOf lock) (size : ∀ s ∈ signatures, s.length = System.signatureSize) :
      Signed d lock (data ++ signatures.flatten)

theorem policyOf_eq_ok_iff {policy : Multisig} :
    d.policyOf lock = .ok policy ↔ d.policies.get? (policyHash lock) = some policy := by
  unfold policyOf
  cases d.policies.get? (policyHash lock) <;> simp

/-- What a finished draft has for a lock. -/
theorem signed_of_signedLock (hd : d.Sound) (h : d.signedLock lock = .ok part) : Signed d lock part := by
  unfold signedLock at h
  dsimp only at h
  split_ifs at h with hm
  · obtain ⟨policy, hp, h⟩ := bind_eq_ok_iff.mp h
    split_ifs at h with hcount
    · cases h
    · obtain ⟨data, hdata, h⟩ := bind_eq_ok_iff.mp h
      cases pure_eq_ok_iff.mp h
      have hvalid := hd.policies _ _ (policyOf_eq_ok_iff.mp hp)
      have hmem : ∀ s ∈ (d.signaturesOf lock).take policy.threshold.toNat, s ∈ d.signaturesOf lock :=
        fun s hs => List.mem_of_mem_take hs
      refine .policy hm hp hvalid (mapError_eq_ok_iff.mp hdata) ?_ ((hd.distinct lock).sublist (List.take_sublist ..))
        hmem fun s hs => hd.size lock s (hmem s hs)
      rw [List.length_take]
      have := hvalid.threshold_pos
      omega
  · cases hs : d.signaturesOf lock with
    | nil =>
      rw [hs] at h
      cases h
    | cons signature r =>
      rw [hs] at h
      cases h
      have hmem : part ∈ d.signaturesOf lock := hs ▸ List.mem_cons_self
      exact .single (by simpa using hm) hmem (hd.size lock _ hmem)

/-- Zeros in place of the signatures: all of the part of a single key lock; what comes after the keys in that of a
multisig lock, whose fourth byte counts the keys. -/
def zeroSlots (lock : Script) (part : Bytes) : Bytes :=
  let kept := if lock.isMultisig then 4 + System.keyHashSize * (part[3]?.map UInt8.toNat).getD 0 else 0
  part.take kept ++ Bytes.zeros (part.length - kept)

/-- How long the part of a lock is. -/
theorem Signed.length_eq (h : Signed d lock part) :
    (lock.isMultisig = false ∧ part.length = System.signatureSize) ∨
      (lock.isMultisig = true ∧ ∃ policy, d.policyOf lock = .ok policy ∧
        part.length = 4 + System.keyHashSize * policy.keys.length + System.signatureSize * policy.threshold.toNat) := by
  cases h with
  | single hs _ size => exact .inl ⟨hs, size⟩
  | policy multi known valid bytes count _ _ size =>
    refine .inr ⟨multi, _, known, ?_⟩
    rw [List.length_append, valid.length_witnessData bytes, Bytes.length_flatten_of_forall size, count]

/-- What was signed in place of the part has zeros for its signatures, and is as long. -/
theorem Signed.placeholder_eq (h : Signed d lock part) :
    d.placeholder lock = .ok (zeroSlots lock part) ∧ (zeroSlots lock part).length = part.length := by
  cases h with
  | single hs _ size =>
    unfold placeholder zeroSlots
    simp [hs, size]
  | @policy policy data signatures multi known valid bytes count _ _ size =>
    have hlength := valid.length_witnessData bytes
    have hflat := Bytes.length_flatten_of_forall size
    have hzero : zeroSlots lock (data ++ signatures.flatten) =
        data ++ Bytes.zeros (System.signatureSize * policy.threshold.toNat) := by
      unfold zeroSlots
      dsimp only
      rw [if_pos multi, Multisig.count_witnessData bytes, Option.getD_some, ← hlength, List.take_left,
        List.length_append, Nat.add_sub_cancel_left, hflat, count]
    rw [hzero]
    constructor
    · unfold placeholder
      rw [if_pos multi]
      refine bind_eq_ok_iff.mpr ⟨policy, known, mapError_eq_ok_iff.mpr ?_⟩
      exact bind_eq_ok_iff.mpr ⟨data, bytes, rfl⟩
    · rw [List.length_append, List.length_append, Bytes.length_zeros, hflat, count]

/-- Somebody may sign for the lock. -/
theorem Signed.exists_candidates (h : Signed d lock part) : ∃ keys, d.candidates lock = .ok keys := by
  unfold candidates
  cases h with
  | single hs _ _ =>
    rw [hs]
    exact ⟨_, rfl⟩
  | @policy policy _ _ multi known _ _ _ _ _ _ =>
    rw [if_pos multi]
    exact ⟨_, bind_eq_ok_iff.mpr ⟨policy, known, rfl⟩⟩

end Signed

end CellPurse.Draft
