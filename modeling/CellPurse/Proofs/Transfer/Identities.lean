import CellPurse.Proofs.Draft.Signing
import CellPurse.Proofs.Keys.Authority
import CellPurse.Proofs.Keys.Derived
import CellPurse.Proofs.Transfer.Stages

/-!
# CellPurse.Proofs.Transfer.Identities — whoever is searched can sign

* `Funding.searched order entries`: the locks that are searched; `ends_resolve`: what resolving hands over;
* `LockedSource.bind_eq_ok`: the policy of a locked source is that of one of the keys, alone;
* `Funding.CanSign`: the keys that may sign for a lock are known, and the signer finds one of them;
* `resolve_signable`: the signer of an order finds a key for each lock that is searched, and change goes to one of its
  keys.
-/

namespace CellPurse

open Outcome Told

theorem LockedSource.bind_eq_ok {s : LockedSource} {keys : List Bytes} {policy : Multisig}
    (h : s.bind keys = .ok policy) :
    policy.hash = .ok s.args.policyHash ∧ ∃ key ∈ keys, Multisig.make [key] 0 1 = .ok policy := by
  induction keys with
  | nil => cases h
  | cons key r ih =>
    rw [bind] at h
    obtain ⟨made, hmade, h⟩ := bind_eq_ok_iff.mp h
    obtain ⟨hash, hhash, h⟩ := bind_eq_ok_iff.mp h
    by_cases hsame : hash = s.args.policyHash
    · rw [if_pos hsame] at h
      cases pure_eq_ok_iff.mp h
      exact ⟨hsame ▸ mapError_eq_ok_iff.mp hhash, key, List.mem_cons_self, mapError_eq_ok_iff.mp hmade⟩
    · rw [if_neg hsame] at h
      obtain ⟨hpolicy, other, hother, hfrom⟩ := ih h
      exact ⟨hpolicy, other, List.mem_cons_of_mem _ hother, hfrom⟩

namespace Funding

/-! ## The locks -/

/-- The locks that are searched: the locked source, the lock of the payer's key and those of its derived keys. -/
def searched (order : Order) (entries : List KeyEntry) : List Script :=
  (order.locked.toList.map fun s => s.address.script) ++
    System.sighashLock order.payer.keyHash :: entries.map fun e => System.sighashLock e.keyHash

/-- A lock has this hash. -/
abbrev Names (lock : Script) (hash : Bytes) : Prop := lock.hash = .ok hash

section Owned

variable {keyring : Option Keyring} {limits : Limits} {order : Order} {funding : Funding} {past new : List Event}

/-- The funding of the payer's own keys: of the payer's key alone, or of derived keys as well. -/
inductive Owned (keyring : Option Keyring) (limits : Limits) (order : Order) : Funding → Prop where
  | alone {hash : Bytes} (only : derivedKeys keyring limits order = .ok none)
      (named : Names (System.sighashLock order.payer.keyHash) hash) :
      Owned keyring limits order ⟨[hash], System.sighashLock order.payer.keyHash, []⟩
  | derived {hash : Bytes} {hashes : List Bytes} {keys : DerivedKeys} {change : Address}
      (found : derivedKeys keyring limits order = .ok (some (keys, change)))
      (named : Names (System.sighashLock order.payer.keyHash) hash)
      (others : List.Forall₂ Names (keys.keyHashes.map System.sighashLock) hashes) :
      Owned keyring limits order ⟨hash :: hashes, change.script, keys.entries⟩

theorem lockHash_eq_ok_iff {keyHash hash : Bytes} :
    lockHash keyHash = .ok hash ↔ Names (System.sighashLock keyHash) hash := mapError_eq_ok_iff

theorem ends_owned_ok (h : Ends (owned keyring limits order) past (.ok funding) new) :
    Owned keyring limits order funding := by
  obtain ⟨first, hfirst, h⟩ := ends_step_bind_ok_iff.mp h
  obtain ⟨hash, hhash, hfirst⟩ := bind_eq_ok_iff.mp hfirst
  cases pure_eq_ok_iff.mp hfirst
  have hnamed := lockHash_eq_ok_iff.mp hhash
  obtain ⟨derived, hderived, h⟩ := ends_step_bind_ok_iff.mp h
  cases derived with
  | none =>
    cases (ends_pure_iff.mp h).1
    exact .alone hderived hnamed
  | some derived =>
    obtain ⟨keys, change⟩ := derived
    have hadded : ∃ past' new', Ends (do
        let found ← step ((⟨[hash], System.sighashLock order.payer.keyHash, []⟩ : Funding).addDerived keys change)
        Journal.info ("Searching " ++ toString found.lockHashes.length ++ " derived lock hashes")
        pure found) past' (.ok funding) new' := by
      dsimp only at h
      split at h
      · obtain ⟨_, h, -⟩ := ends_note_bind_iff.mp h
        exact ⟨_, _, h⟩
      · exact ⟨_, _, h⟩
    obtain ⟨_, _, h⟩ := hadded
    obtain ⟨found, hadd, h⟩ := ends_step_bind_ok_iff.mp h
    obtain ⟨_, h, -⟩ := ends_note_bind_iff.mp h
    cases (ends_pure_iff.mp h).1
    obtain ⟨hashes, hhashes, hadd⟩ := bind_eq_ok_iff.mp hadd
    cases pure_eq_ok_iff.mp hadd
    have hothers := (mapM_eq_ok_iff.mp hhashes).imp fun keyHash hash => lockHash_eq_ok_iff.mp
    exact .derived hderived hnamed (List.forall₂_map_left_iff.mpr hothers)

theorem Owned.names (h : Owned keyring limits order funding) :
    List.Forall₂ Names (System.sighashLock order.payer.keyHash ::
      funding.entries.map fun e => System.sighashLock e.keyHash) funding.lockHashes := by
  cases h with
  | alone _ named => exact .cons named .nil
  | derived _ named others =>
    unfold DerivedKeys.keyHashes at others
    rw [List.map_map] at others
    exact .cons named others

/-- Derived keys are those of an account of the keyring, up to the address for change. -/
theorem derivedKeys_eq_some {keys : DerivedKeys} {change : Address}
    (h : derivedKeys keyring limits order = .ok (some (keys, change))) :
    order.change = some change ∧ ∃ ring account password, keyring = some ring ∧
      order.payer = .account account password ∧
      ring.expandToChange account password order.receiving change.args limits.depth = .ok keys := by
  unfold derivedKeys at h
  split at h
  · next ring change' account password hchange hpayer =>
    obtain ⟨found, hfound, h⟩ := bind_eq_ok_iff.mp h
    cases pure_eq_ok_iff.mp h
    exact ⟨hchange, ring, account, password, rfl, hpayer, mapError_eq_ok_iff.mp hfound⟩
  · cases h

/-- A sound order without derived keys names no address for change. -/
theorem change_eq_none (ho : order.Sound keyring.isSome) (h : derivedKeys keyring limits order = .ok none) :
    order.change = none := by
  cases hchange : order.change with
  | none => rfl
  | some change =>
    obtain ⟨account, password, hpayer⟩ := ho.changePayer change hchange
    obtain ⟨ring, hring⟩ := Option.isSome_iff_exists.mp (ho.keyring account password hpayer)
    unfold derivedKeys at h
    rw [hring, hchange, hpayer] at h
    obtain ⟨keys, -, h⟩ := bind_eq_ok_iff.mp h
    cases pure_eq_ok_iff.mp h

/-- Where the change goes: to the lock of the payer's key, or to that of a derived key for change. -/
def ChangeStays (keyring : Option Keyring) (limits : Limits) (order : Order) (funding : Funding) : Prop :=
  (order.change = none ∧ funding.entries = [] ∧ funding.changeLock = System.sighashLock order.payer.keyHash) ∨
    ∃ address keys, order.change = some address ∧ derivedKeys keyring limits order = .ok (some (keys, address)) ∧
      funding.entries = keys.entries ∧ ∃ e ∈ keys.change, funding.changeLock = System.sighashLock e.keyHash ∧
        ∃ path, KeyEntry.pathOf? funding.entries e.keyHash = some path

theorem Owned.changeStays (ho : order.Sound keyring.isSome) (h : Owned keyring limits order funding) :
    ChangeStays keyring limits order funding := by
  cases h with
  | alone only _ => exact .inl ⟨change_eq_none ho only, rfl, rfl⟩
  | @derived _ _ keys change found _ _ =>
    obtain ⟨hchange, ring, account, password, -, -, hkeys⟩ := derivedKeys_eq_some found
    obtain ⟨_, -, -, e, he, hlast⟩ := Keyring.lists_of_expandToChange hkeys
    have hlock : change.script = System.sighashLock e.keyHash := hlast ▸ (ho.changeLock change hchange).1
    have hpath := KeyEntry.exists_pathOf?_iff.mpr ⟨e, List.mem_append_right keys.external he, rfl⟩
    exact .inr ⟨change, keys, hchange, found, rfl, e, he, hlock, hpath⟩

theorem Owned.keyHash_eq (h : Owned keyring limits order funding) :
    ∀ e ∈ funding.entries, ∀ f ∈ funding.entries, e.path = f.path → e.keyHash = f.keyHash := by
  cases h with
  | alone => exact List.forall_mem_nil _
  | derived found =>
    obtain ⟨-, ring, account, password, -, -, hkeys⟩ := derivedKeys_eq_some found
    obtain ⟨a, -, hlists, -⟩ := Keyring.lists_of_expandToChange hkeys
    exact hlists.keyHash_eq

/-! ## Signers -/

/-- A sound order has a signer, who knows the payer's key and the derived keys. -/
theorem Owned.exists_signer (ho : order.Sound keyring.isSome) (h : Owned keyring limits order funding) :
    ∃ signer, Transfer.signer keyring order funding.entries = .ok signer ∧ signer.primary = order.payer.keyHash ∧
      signer.entries = funding.entries := by
  unfold Transfer.signer
  cases hpayer : order.payer with
  | secret secret =>
    have hnone : funding.entries = [] := by
      rcases h.changeStays ho with ⟨-, hentries, -⟩ | ⟨address, _, hchange, -⟩
      · exact hentries
      · obtain ⟨account, password, haccount⟩ := ho.changePayer address hchange
        rw [hpayer] at haccount
        cases haccount
    exact ⟨_, rfl, rfl, hnone.symm⟩
  | account account password =>
    obtain ⟨ring, hring⟩ := Option.isSome_iff_exists.mp (ho.keyring account password hpayer)
    rw [hring]
    exact ⟨_, rfl, rfl, rfl⟩

/-- The keys that may sign for a lock are known, and the signer finds one of them. -/
def CanSign (signer : Signer Id) (draft : Draft) (lock : Script) : Prop :=
  ∃ candidates, draft.candidates lock = .ok candidates ∧
    (signer.resolve candidates).Covers candidates signer.primary signer.entries

variable {signer : Signer Id} {draft : Draft}

theorem canSign_sighashLock
    (hpaths : ∀ e ∈ signer.entries, ∀ f ∈ signer.entries, e.path = f.path → e.keyHash = f.keyHash) {keyHash : Bytes}
    (h : keyHash ∈ signer.primary :: signer.entries.map KeyEntry.keyHash) :
    CanSign signer draft (System.sighashLock keyHash) := by
  have hcandidates : draft.candidates (System.sighashLock keyHash) = .ok [keyHash] := by
    unfold Draft.candidates
    rw [System.isMultisig_sighashLock]
    rfl
  have hknown : keyHash = signer.primary ∨ ∃ e ∈ signer.entries, e.keyHash = keyHash := by
    rw [List.mem_cons, List.mem_map] at h
    exact h
  exact ⟨_, hcandidates, Authority.resolve_covers hpaths (List.mem_singleton_self _) hknown⟩

/-- The policy of a locked source has one key, which is the signer's. -/
theorem canSign_locked
    (hpaths : ∀ e ∈ signer.entries, ∀ f ∈ signer.entries, e.path = f.path → e.keyHash = f.keyHash)
    {source : LockedSource} (hs : source.Fits) {policy : Multisig}
    (hb : source.bind (signer.primary :: signer.entries.map KeyEntry.keyHash) = .ok policy)
    (hp : draft.policies.get? source.args.policyHash = some policy) : CanSign signer draft source.address.script := by
  obtain ⟨-, key, hkey, hmake⟩ := LockedSource.bind_eq_ok hb
  obtain ⟨rfl, -⟩ := Multisig.make_eq_ok_iff.mp hmake
  have hpolicy : draft.policyOf source.address.script = .ok ⟨[key], 0, 1⟩ := by
    have hname : Draft.policyHash source.address.script = source.args.policyHash := hs.policyHash.symm
    rw [Draft.policyOf_eq_ok_iff, hname]
    exact hp
  have hcandidates : draft.candidates source.address.script = .ok [key] := by
    unfold Draft.candidates
    rw [if_pos hs.lock, hpolicy]
    rfl
  have hknown : key = signer.primary ∨ ∃ e ∈ signer.entries, e.keyHash = key := by
    rw [List.mem_cons, List.mem_map] at hkey
    exact hkey
  exact ⟨_, hcandidates, Authority.resolve_covers hpaths (List.mem_singleton_self _) hknown⟩

end Owned

/-- **Whoever is searched can sign.**  For every valid order: if resolving succeeds, the hashes that are searched are
those of the locked source, of the payer's lock and of the locks of its derived keys; the order has a signer, and for
each of these locks it finds a key that may sign; the policy of a locked source is in the draft under the hash that its
arguments begin with; and the change goes to the payer's lock or to that of a derived key for change. -/
theorem resolve_signable {network : Network} {limits : Limits} {keyring : Option Keyring} {request : Request}
    {order : Order} (hv : request.validate network limits keyring.isSome = .ok order) {genesis : Genesis}
    {past new : List Event} {funding : Funding} {draft : Draft}
    (h : Ends (resolve keyring limits order { genesis }) past (.ok (funding, draft)) new) :
    List.Forall₂ Names (searched order funding.entries) funding.lockHashes ∧
      (∃ signer, Transfer.signer keyring order funding.entries = .ok signer ∧
        signer.primary = order.payer.keyHash ∧ signer.entries = funding.entries ∧
          ∀ lock ∈ searched order funding.entries, CanSign signer draft lock) ∧
      (∀ source, order.locked = some source → ∃ policy,
        policy.hash = .ok (source.address.args.take System.keyHashSize) ∧
          draft.policies.get? (source.address.args.take System.keyHashSize) = some policy) ∧
      ChangeStays keyring limits order funding := by
  have ho := Request.sound_of_validate hv
  rw [resolve_eq] at h
  obtain ⟨own, _, _, hown, h, -⟩ := ends_bind_ok_iff.mp h
  have hown := ends_owned_ok hown
  have hstays := hown.changeStays ho
  obtain ⟨signer, hsigner, hprimary, hentries⟩ := hown.exists_signer ho
  have hpaths : ∀ e ∈ signer.entries, ∀ f ∈ signer.entries, e.path = f.path → e.keyHash = f.keyHash :=
    hentries ▸ hown.keyHash_eq
  have hkeys : ∀ lock ∈ System.sighashLock order.payer.keyHash ::
      own.entries.map (fun e => System.sighashLock e.keyHash), CanSign signer draft lock := by
    intro lock hlock
    rcases List.mem_cons.mp hlock with rfl | hlock
    · exact canSign_sighashLock hpaths (hprimary ▸ List.mem_cons_self)
    · obtain ⟨e, he, rfl⟩ := List.mem_map.mp hlock
      exact canSign_sighashLock hpaths (List.mem_cons_of_mem _ (List.mem_map_of_mem (hentries ▸ he)))
  rcases ends_addSource_ok h with ⟨hnone, rfl, rfl⟩ | ⟨source, policy, hash, hsource, hbind, hadd, hhash, rfl⟩
  · -- no locked source
    have hsearched : searched order funding.entries = System.sighashLock order.payer.keyHash ::
        funding.entries.map fun e => System.sighashLock e.keyHash := by
      unfold searched
      rw [hnone]
      rfl
    rw [hsearched]
    refine ⟨hown.names, ⟨signer, hsigner, hprimary, hentries, hkeys⟩, fun source hsource => ?_, hstays⟩
    rw [hnone] at hsource
    cases hsource
  · have hsearched : searched order own.entries = source.address.script :: System.sighashLock order.payer.keyHash ::
        own.entries.map fun e => System.sighashLock e.keyHash := by
      unfold searched
      rw [hsource]
      rfl
    have hfits := ho.locked source hsource
    have hbind' := hbind
    rw [← hprimary, ← hentries] at hbind'
    obtain ⟨-, hash', hpolicy, rfl⟩ := Draft.addPolicy_eq_ok_iff.mp hadd
    have hname : hash' = source.args.policyHash :=
      Except.ok.inj (hpolicy.symm.trans (LockedSource.bind_eq_ok hbind).1)
    have hregistered : Assoc.get? source.args.policyHash (Assoc.set hash' policy []) = some policy := by
      rw [Assoc.get?_set, if_pos hname]
    refine ⟨?_, ⟨signer, hsigner, hprimary, hentries, ?_⟩, fun other hother => ?_, hstays⟩
    · rw [hsearched]
      exact .cons hhash hown.names
    · rw [hsearched]
      exact List.forall_mem_cons.mpr ⟨canSign_locked hpaths hfits hbind' hregistered, hkeys⟩
    · cases hsource.symm.trans hother
      rw [← hfits.policyHash]
      exact ⟨policy, hname ▸ hpolicy, hregistered⟩

/-! ## A sample -/

namespace Sample

open CellPurse.Sample (name ring entry expandToChange_ring)

/-- The account pays from its own key, from its first key for change, and from a source that was locked with that
key. -/
def request : Request where
  toAddress := "ckt1qzda0cr08m85hc8jlnfp3zer7xulejywt49kt2rr0vthywaa50xwsqg3zyg3zyg3zyg3zyg3zyg3zyg3zyg3zygfhutwy"
  amount := "100"
  fee := "0.001"
  account := some "7777777777777777777777777777777777777777"
  lockedAddress :=
    some "ckt1qpw9q60tppt7l3j7r09qcp7lxnp3vcanvgha8pmvsa3jplykxn32sqva0ccxms046hys47hl2dh7rjsunfq82mryqqqqqqqpqqsq7s98q0"
  password := some "open"
  receiving := 0
  changeAddress :=
    some "ckt1qzda0cr08m85hc8jlnfp3zer7xulejywt49kt2rr0vthywaa50xwsqdeg92gkjajjwwfmf0skznkdu07wu23d6sw86t30"

/-- The hash of the policy of the key for change, alone. -/
def policyHash : Bytes := [157, 126, 48, 109, 193, 245, 213, 201, 10, 250, 255, 83, 111, 225, 202, 28, 154, 64, 117, 108]

def source : LockedSource where
  address := ⟨.testnet, ⟨System.multisigCode, .type, policyHash ++ [100, 0, 0, 0, 0, 1, 0, 32]⟩⟩
  args := ⟨policyHash, ⟨false, .epochNumber, 1099511627876⟩⟩

def order : Order where
  payer := .account name "open"
  destination := ⟨.testnet, System.sighashLock (List.replicate 20 0x11)⟩
  amount := 10000000000
  fee := 100000
  data := []
  receiving := 0
  change := some ⟨.testnet, System.sighashLock entry.keyHash⟩
  locked := some source

def limits : Limits := { depth := 1, depth_pos := Nat.one_pos }

theorem validate_request : request.validate .testnet limits (some ring).isSome = .ok order := by decide +kernel

/-- The hash of the lock of one key. -/
def named (keyHash : Bytes) : Bytes := (System.sighashLock keyHash).hash.toOption.getD []

def sourceHash : Bytes := source.address.lockHash.toOption.getD []

def funding : Funding :=
  ⟨[sourceHash, named name, named entry.keyHash], System.sighashLock entry.keyHash, [entry]⟩

def genesis : Genesis := ⟨[], ⟨⟨[0x22], 0⟩, .depGroup⟩, ⟨⟨[0x22], 1⟩, .depGroup⟩⟩

def draft : Draft := { genesis, policies := [(policyHash, ⟨[entry.keyHash], 0, 1⟩)] }

theorem derivedKeys_order : derivedKeys (some ring) limits order =
    .ok (some (⟨[], [entry]⟩, ⟨.testnet, System.sighashLock entry.keyHash⟩)) := by
  refine bind_eq_ok_iff.mpr ⟨_, mapError_eq_ok_iff.mpr ?_, rfl⟩
  exact expandToChange_ring

theorem addLocked_source : addLocked ⟨[named name, named entry.keyHash], System.sighashLock entry.keyHash, [entry]⟩ order
    source { genesis } = .ok (funding, draft) := by
  rw [← toOption_eq_some_iff]
  decide +kernel

theorem ends_owned : ∃ new, Ends (owned (some ring) limits order) []
    (.ok ⟨[named name, named entry.keyHash], System.sighashLock entry.keyHash, [entry]⟩) new := by
  have hprimary : primary order = .ok ⟨[named name], System.sighashLock name, []⟩ := by
    rw [← toOption_eq_some_iff]
    decide +kernel
  have hadded : addDerived ⟨[named name], System.sighashLock name, []⟩ ⟨[], [entry]⟩
      ⟨.testnet, System.sighashLock entry.keyHash⟩ =
        .ok ⟨[named name, named entry.keyHash], System.sighashLock entry.keyHash, [entry]⟩ := by
    rw [← toOption_eq_some_iff]
    decide +kernel
  refine (ends_step_iff.mpr ⟨hprimary.symm, rfl⟩).exists_bind ?_
  refine (ends_step_iff.mpr ⟨derivedKeys_order.symm, rfl⟩).exists_bind ?_
  refine Ends.exists_bind (a := ()) (ends_note_iff.mpr ⟨rfl, rfl⟩) ?_
  refine (ends_step_iff.mpr ⟨hadded.symm, rfl⟩).exists_bind ?_
  exact Ends.exists_bind (a := ()) (ends_note_iff.mpr ⟨rfl, rfl⟩) ⟨_, ends_pure_iff.mpr ⟨rfl, rfl⟩⟩

theorem ends_resolve : ∃ new, Ends (resolve (some ring) limits order { genesis }) [] (.ok (funding, draft)) new := by
  obtain ⟨new, hown⟩ := ends_owned
  rw [resolve_eq]
  exact hown.exists_bind ⟨_, ends_step_iff.mpr ⟨addLocked_source.symm, rfl⟩⟩

end Sample

theorem resolve_signable_sample :
    (∃ signer, Transfer.signer (some CellPurse.Sample.ring) Sample.order Sample.funding.entries = .ok signer ∧
      ∀ lock ∈ [Sample.source.address.script, System.sighashLock CellPurse.Sample.name,
        System.sighashLock CellPurse.Sample.entry.keyHash], CanSign signer Sample.draft lock) ∧
      ChangeStays (some CellPurse.Sample.ring) Sample.limits Sample.order Sample.funding := by
  obtain ⟨new, hends⟩ := Sample.ends_resolve
  obtain ⟨-, ⟨signer, hsigner, -, -, hall⟩, -, hchange⟩ := resolve_signable Sample.validate_request hends
  exact ⟨⟨signer, hsigner, hall⟩, hchange⟩

end Funding

end CellPurse
