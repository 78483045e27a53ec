import CellPurse.Proofs.Transfer.Search

/-!
# CellPurse.Proofs.Transfer.Orders — what is known of a valid order

* `Script.isSighash_iff`, `Script.isMultisig_iff`: the system locks; no lock of one key is a multisig lock;
* `Order.Sound hasKeyring o`: the addresses of an order are such as they should be, and only an account with a keyring
  has an address for change; `sound_of_validate`: valid orders are sound;
* `ends_validated`: a run validates as `Request.validate` does, and says nothing but notes.
-/

namespace CellPurse

open Outcome Told

/-! ## System locks -/

theorem Script.isSighash_iff {s : Script} :
    s.isSighash = true ↔ s = System.sighashLock s.args ∧ s.args.length = System.keyHashSize := by
  obtain ⟨code, hashType, args⟩ := s
  simp only [isSighash, System.sighashLock, Bool.and_eq_true, decide_eq_true_eq, Script.mk.injEq, and_true]
  constructor
  · rintro ⟨⟨htype, hcode⟩, hsize⟩
    exact ⟨⟨hcode, htype⟩, hsize⟩
  · rintro ⟨⟨hcode, htype⟩, hsize⟩
    exact ⟨⟨htype, hcode⟩, hsize⟩

theorem Script.isMultisig_iff {s : Script} : s.isMultisig = true ↔
    s.hasMultisigCode = true ∧ (s.args.length = System.keyHashSize ∨ s.args.length = System.lockedArgsSize) := by
  simp only [isMultisig, Bool.and_eq_true, Bool.or_eq_true, decide_eq_true_eq]

theorem System.isMultisig_sighashLock (keyHash : Bytes) : (System.sighashLock keyHash).isMultisig = false := by
  have hcode : System.sighashCode ≠ System.multisigCode := by decide
  simp [Script.isMultisig, Script.hasMultisigCode, System.sighashLock, hcode]

/-- The arguments of an accepted destination have one of two sizes. -/
theorem Address.size_of_isDestination {a : Address} (h : a.isDestination = true) :
    a.args.length = System.keyHashSize ∨ a.args.length = System.lockedArgsSize := by
  rcases Bool.or_eq_true _ _ |>.mp h with hs | hm
  · exact .inl (Script.isSighash_iff.mp hs).2
  · exact (Script.isMultisig_iff.mp hm).2

/-! ## Sources -/

namespace LockedSource

/-- The address of a locked source is a multisig lock whose arguments begin with the hash of the policy. -/
structure Fits (s : LockedSource) : Prop where
  lock : s.address.script.isMultisig = true
  size : s.address.args.length = System.lockedArgsSize
  policyHash : s.args.policyHash = s.address.args.take System.keyHashSize

theorem fits_of_ofAddress {a : Address} {s : LockedSource} (h : ofAddress a = .ok s) : s.address = a ∧ s.Fits := by
  unfold ofAddress at h
  split_ifs at h with hcode
  cases hargs : LockedArgs.parse a.args with
  | error f =>
    rw [hargs] at h
    cases h
  | ok args =>
    rw [hargs] at h
    cases h
    unfold LockedArgs.parse at hargs
    split_ifs at hargs with hsize
    have hsize : a.args.length = System.lockedArgsSize := not_not.mp hsize
    have hhash : args.policyHash = a.args.take System.keyHashSize := by
      split at hargs
      · cases hargs
      · split_ifs at hargs
        cases hargs
        rfl
    exact ⟨rfl, Script.isMultisig_iff.mpr ⟨by simpa using hcode, .inr hsize⟩, hsize, hhash⟩

end LockedSource

/-! ## Orders -/

/-- What the parts of an order have to do with each other and with the keyring. -/
structure Order.Sound (hasKeyring : Bool) (o : Order) : Prop where
  payer : o.payer.keyHash.length = System.keyHashSize
  destination : o.destination.isDestination = true
  keyring : ∀ account password, o.payer = .account account password → hasKeyring = true
  changePayer : ∀ a, o.change = some a → ∃ account password, o.payer = .account account password
  changeLock : ∀ a, o.change = some a → a.script = System.sighashLock a.args ∧ a.args.length = System.keyHashSize
  locked : ∀ s, o.locked = some s → s.Fits

namespace Request

section Parts

variable {network : Network} {hasKeyring : Bool} {r : Request}

theorem length_of_keyHash {text : String} {hash : Bytes} (h : keyHash network text = .ok hash) :
    hash.length = System.keyHashSize := by
  have hread : ∀ b : Bytes, (do
      let address ← (Address.parse text (some network)).mapError (RequestFault.account text)
      if address.script.isSighash then pure address.args else throw (RequestFault.accountLock text)) = .ok b →
        b.length = System.keyHashSize := by
    intro b hb
    obtain ⟨address, -, hb⟩ := bind_eq_ok_iff.mp hb
    split at hb
    · next hs =>
      cases pure_eq_ok_iff.mp hb
      exact (Script.isSighash_iff.mp hs).2
    · cases hb
  unfold keyHash at h
  dsimp only at h
  split at h
  · split at h
    · next hsize =>
      cases h
      exact hsize
    · exact hread hash h
  · exact hread hash h

/-- Who pays: the holder of a secret, who names no address for change, or an account of the keyring. -/
theorem payer_eq_ok {p : Payer} (h : r.payer network hasKeyring = .ok p) :
    (∃ secret, p = .secret secret ∧ r.changeAddress = none) ∨
      ∃ account password, p = .account account password ∧ account.length = System.keyHashSize ∧ hasKeyring = true := by
  unfold payer at h
  split at h
  · split_ifs at h with hchange
    obtain ⟨secret, -, rfl⟩ := map_eq_ok_iff.mp h
    exact .inl ⟨secret, rfl, by simpa using hchange⟩
  · split at h
    · cases h
    · obtain ⟨hash, hhash, h⟩ := bind_eq_ok_iff.mp h
      split at h
      · cases h
      · split at h
        · next password _ hring =>
          exact .inr ⟨hash, password, (pure_eq_ok_iff.mp h).symm, length_of_keyHash hhash, hring⟩
        · cases h
  · cases h

theorem change_eq_some {a : Address} (h : r.change network = .ok (some a)) :
    r.changeAddress.isSome = true ∧ a.script.isSighash = true := by
  unfold change at h
  split at h
  · cases h
  · next text htext =>
    obtain ⟨address, -, h⟩ := bind_eq_ok_iff.mp h
    split at h
    · next hs =>
      cases pure_eq_ok_iff.mp h
      exact ⟨by rw [htext]; rfl, hs⟩
    · cases h

theorem fits_of_locked {s : LockedSource} (h : r.locked network = .ok (some s)) : s.Fits := by
  unfold locked at h
  split at h
  · cases h
  · obtain ⟨address, -, h⟩ := bind_eq_ok_iff.mp h
    obtain ⟨source, hsource, he⟩ := map_eq_ok_iff.mp h
    cases he
    exact (LockedSource.fits_of_ofAddress (mapError_eq_ok_iff.mp hsource)).2

theorem isDestination_of_destination {a : Address} (h : r.destination network = .ok a) : a.isDestination = true := by
  obtain ⟨address, -, h⟩ := bind_eq_ok_iff.mp h
  split at h
  · next hd =>
    cases pure_eq_ok_iff.mp h
    exact hd
  · cases h

end Parts

/-- **A valid order is sound.** -/
theorem sound_of_validate {network : Network} {limits : Limits} {hasKeyring : Bool} {r : Request} {o : Order}
    (h : r.validate network limits hasKeyring = .ok o) : o.Sound hasKeyring := by
  obtain ⟨hp, hr⟩ := reads_of_validate h
  have hchange : ∀ a, o.change = some a → r.changeAddress.isSome = true ∧ a.script.isSighash = true := fun a ha =>
    change_eq_some (ha ▸ hr.change)
  refine ⟨?_, isDestination_of_destination hr.destination, fun account password he => ?_, fun a ha => ?_,
    fun a ha => Script.isSighash_iff.mp (hchange a ha).2, fun s hs => fits_of_locked (hs ▸ hr.locked)⟩
  · rcases payer_eq_ok hp with ⟨secret, hs, -⟩ | ⟨account, _, he, hsize, -⟩
    · rw [hs]
      exact Hash.length_short _
    · rw [he]
      exact hsize
  · rcases payer_eq_ok hp with ⟨secret, hs, -⟩ | ⟨_, _, -, -, hring⟩
    · rw [he] at hs
      cases hs
    · exact hring
  · rcases payer_eq_ok hp with ⟨secret, -, hnone⟩ | ⟨account, password, he, -⟩
    · rw [hnone] at hchange
      cases (hchange a ha).1
    · exact ⟨account, password, he⟩

end Request

namespace Transfer

/-- **A run validates as `Request.validate` does**, and says nothing but notes. -/
theorem ends_validated {w : Wallet Told} {request : Request} {past new : List Event} {r : Except TransferFault Order}
    (h : Ends (validated w request) past r new) :
    r = (request.validate w.network w.limits w.keyring.isSome).mapError .request ∧ ∀ v ∈ new, v.IsNote := by
  unfold validated at h
  unfold Request.validate
  rcases ends_step_bind_iff.mp h with ⟨e, hpayer, rfl, rfl⟩ | ⟨payer, hpayer, h₁⟩
  · obtain ⟨f, hf, rfl⟩ := mapError_eq_error_iff.mp hpayer
    rw [hf]
    exact ⟨rfl, List.forall_mem_nil _⟩
  rw [mapError_eq_ok_iff.mp hpayer]
  rcases ends_step_bind_iff.mp h₁ with ⟨e, hlocked, rfl, rfl⟩ | ⟨locked, hlocked, h₂⟩
  · obtain ⟨f, hf, rfl⟩ := mapError_eq_error_iff.mp hlocked
    simp only [hf]
    exact ⟨rfl, List.forall_mem_nil _⟩
  simp only [mapError_eq_ok_iff.mp hlocked]
  cases locked with
  | none =>
    obtain ⟨rfl, rfl⟩ := ends_step_iff.mp h₂
    exact ⟨rfl, List.forall_mem_nil _⟩
  | some source =>
    obtain ⟨rest, h₃, rfl⟩ := ends_note_bind_iff.mp h₂
    obtain ⟨rfl, rfl⟩ := ends_step_iff.mp h₃
    exact ⟨rfl, List.forall_mem_singleton.mpr trivial⟩

end Transfer

end CellPurse
