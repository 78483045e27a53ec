import CellPurse.Keys.Keyring
import CellPurse.Proofs.Hash.KeyBlock
import CellPurse.Proofs.Keys.Derived
import Mathlib.Data.List.Induction

/-!
# CellPurse.Proofs.Keys.Password — whom a keyring opens to

A keyring is used by calls: accounts are added, keys are derived and digests are signed, in any order.

* `Keyring.Call`, `Keyring.serve`, `Keyring.after`: a call, the answer to it with the keyring that it leaves, and the
  keyring that a history of calls leaves;
* `latest? account calls`: what the latest call that added an account gave: root, password and salt;
* `get?_after`: this, and nothing else of the history, is what the keyring knows of the account;
* `opens_only_with_its_password`: the calls that use an account fail for a wrong password with every other password
  that is no twin of its own (`Hmac256.Twins`), and never do so with its own or a twin;
* `opened_with_twin`: a zero at the end of a password does not count.
-/

namespace CellPurse

open Hash Outcome

namespace Seed

theorem toList_loop (b : ByteArray) (i : Nat) (r : List UInt8) :
    ByteArray.toList.loop b i r = r.reverse ++ b.data.toList.drop i := by
  fun_induction ByteArray.toList.loop b i r with
  | case1 i r hi ih =>
    have hsize : i < b.data.toList.length := by
      rw [Array.length_toList]
      exact hi
    have hget : b.get! i = b.data.toList[i] := by
      rw [Array.getElem_toList]
      exact getElem!_pos b.data i hi
    rw [ih, List.drop_eq_getElem_cons hsize, hget, List.reverse_cons, List.append_assoc]
    rfl
  | case2 i r hi =>
    have hsize : b.data.toList.length ≤ i := by
      rw [Array.length_toList]
      exact Nat.not_lt.mp hi
    rw [List.drop_eq_nil_of_le hsize, List.append_nil]

/-- A text is known by its bytes. -/
theorem utf8_inj {s t : String} (h : utf8 s = utf8 t) : s = t := by
  have hdata : ∀ b : ByteArray, b.toList = b.data.toList := fun b => toList_loop b 0 []
  unfold utf8 at h
  rw [hdata, hdata, Array.toList_inj] at h
  exact String.toByteArray_inj.mp (ByteArray.ext h)

end Seed

namespace Keyring

/-! ## Histories -/

/-- What is asked of a keyring. -/
inductive Call where
  | add (words password : String) (salt : Bytes)
  | derive (account : Bytes) (password : String) (external change : ChildRange)
  | sign (account : Bytes) (path : String) (digest : Bytes) (password : String)

/-- What it answers. -/
inductive Answer where
  | added (r : Except KeyFault Bytes)
  | derived (r : Except KeyringFault DerivedKeys)
  | signed (r : Except KeyringFault Bytes)

/-- Why a use of an account failed. -/
def Answer.fault? : Answer → Option KeyringFault
  | derived (.error f) | signed (.error f) => some f
  | _ => none

/-- The answer to a call that adds an account, and the keyring after it. -/
def added (ring : Keyring) : Except KeyFault (Bytes × Keyring) → Answer × Keyring
  | .ok (name, next) => (.added (.ok name), next)
  | .error f => (.added (.error f), ring)

/-- The answer to a call, and the keyring after it. -/
def serve (ring : Keyring) : Call → Answer × Keyring
  | .add words password salt => ring.added (ring.add words password salt)
  | .derive account password external change => (.derived (ring.derive account password external change), ring)
  | .sign account path digest password => (.signed (ring.sign account path digest password), ring)

/-- The keyring that a history of calls leaves. -/
def after (calls : List Call) : Keyring := calls.foldl (fun ring call => (ring.serve call).2) {}

/-- What an account was added with. -/
structure Origin where
  master : ExtendedKey
  password : String
  salt : Bytes

/-- What is kept of it. -/
def Origin.account (o : Origin) : Account := ⟨o.master, o.salt, Account.verifierOf o.password o.salt⟩

/-- It is that of the account with a given name. -/
def Origin.named (account : Bytes) (password : String) (salt : Bytes) (master : ExtendedKey) : Option Origin :=
  if master.keyHash = account then some ⟨master, password, salt⟩ else none

namespace Call

/-- What the call adds under a name. -/
def adds? (account : Bytes) : Call → Option Origin
  | add words password salt => (ExtendedKey.ofMnemonic words).toOption.bind (Origin.named account password salt)
  | _ => none

/-- The call uses an account with a password. -/
def Uses (account : Bytes) (password : String) : Call → Prop
  | add _ _ _ => False
  | derive a q _ _ => a = account ∧ q = password
  | sign a _ _ q => a = account ∧ q = password

end Call

/-- What the latest call that added an account gave. -/
def latest? (account : Bytes) (calls : List Call) : Option Origin := calls.reverse.findSome? (Call.adds? account)

theorem after_concat (calls : List Call) (call : Call) : after (calls ++ [call]) = ((after calls).serve call).2 := by
  unfold after
  rw [List.foldl_append]
  rfl

theorem latest?_concat (account : Bytes) (calls : List Call) (call : Call) :
    latest? account (calls ++ [call]) = (call.adds? account).or (latest? account calls) := by
  unfold latest?
  rw [List.reverse_append, List.reverse_singleton, List.singleton_append, List.findSome?_cons]
  cases call.adds? account with
  | none => rfl
  | some o => rfl

/-- A call adds what it adds, and changes no other account. -/
theorem get?_serve (ring : Keyring) (call : Call) (account : Bytes) : (ring.serve call).2.accounts.get? account =
    ((call.adds? account).map Origin.account).or (ring.accounts.get? account) := by
  cases call with
  | derive | sign => rfl
  | add words password salt =>
    show (ring.added (ring.add words password salt)).2.accounts.get? account =
      (((ExtendedKey.ofMnemonic words).toOption.bind (Origin.named account password salt)).map Origin.account).or _
    unfold add
    generalize ExtendedKey.ofMnemonic words = made
    cases made with
    | error f => rfl
    | ok master =>
      show Assoc.get? account (Assoc.set master.keyHash (Origin.account ⟨master, password, salt⟩) ring.accounts) =
        ((Origin.named account password salt master).map Origin.account).or _
      rw [Assoc.get?_set]
      unfold Origin.named
      split
      · rfl
      · rfl

/-- **A keyring knows of an account what the latest call gave that added it.** -/
theorem get?_after (calls : List Call) (account : Bytes) :
    (after calls).accounts.get? account = (latest? account calls).map Origin.account := by
  induction calls using List.reverseRecOn with
  | nil => rfl
  | append_singleton calls call ih =>
    rw [after_concat, get?_serve, ih, latest?_concat]
    cases call.adds? account with
    | none => rfl
    | some o => rfl

/-- An account that was added is there under the name that was answered. -/
theorem exists_origin_of_added {ring : Keyring} {words password : String} {salt name : Bytes}
    (h : (ring.serve (.add words password salt)).1 = .added (.ok name)) :
    ∃ o, (Call.add words password salt).adds? name = some o ∧ o.password = password := by
  have h : (ring.added (ring.add words password salt)).1 = .added (.ok name) := h
  show ∃ o, (ExtendedKey.ofMnemonic words).toOption.bind (Origin.named name password salt) = some o ∧ _
  unfold add at h
  generalize ExtendedKey.ofMnemonic words = made at h ⊢
  cases made with
  | error f => cases h
  | ok master =>
    have hname : master.keyHash = name := Except.ok.inj (Answer.added.inj h)
    exact ⟨⟨master, password, salt⟩, if_pos hname, rfl⟩

/-- A use of an account leaves the keyring as it is. -/
theorem serve_of_uses {ring : Keyring} {account : Bytes} {q : String} {call : Call} (h : call.Uses account q) :
    (ring.serve call).2 = ring := by
  cases call with
  | add => exact h.elim
  | derive | sign => rfl

/-! ## Who may use an account -/

variable {ring : Keyring} {account : Bytes} {q : String} {call : Call}

theorem fault?_derived_iff {r : Except KeyringFault DerivedKeys} {f : KeyringFault} :
    (Answer.derived r).fault? = some f ↔ r = .error f := by
  cases r <;> simp [Answer.fault?]

theorem fault?_signed_iff {r : Except KeyringFault Bytes} {f : KeyringFault} :
    (Answer.signed r).fault? = some f ↔ r = .error f := by
  cases r <;> simp [Answer.fault?]

theorem fault?_of_unlock_eq_error (huse : call.Uses account q) {f : KeyringFault}
    (h : ring.unlock account q = .error f) : (ring.serve call).1.fault? = some f := by
  cases call with
  | add => exact huse.elim
  | derive =>
    obtain ⟨rfl, rfl⟩ := huse
    exact fault?_derived_iff.mpr (bind_eq_error_iff.mpr (.inl h))
  | sign =>
    obtain ⟨rfl, rfl⟩ := huse
    exact fault?_signed_iff.mpr (bind_eq_error_iff.mpr (.inl h))

theorem faults_derive (a : Account) (external change : ChildRange) :
    Faults (fun f => f.kind ≠ .password) (a.derive external change) :=
  faults_mapError (fun f => by cases f <;> nofun) _

theorem faults_sign (a : Account) (path : String) (digest : Bytes) :
    Faults (fun f => f.kind ≠ .password) (a.sign path digest) := by
  have hkey : Faults (fun f => f.kind ≠ .password) (a.signingKey path) := by
    unfold Account.signingKey
    split
    · exact faults_pure _
    · exact faults_mapError (fun f => by cases f <;> nofun) _
  exact hkey.bind fun _ => faults_mapError (fun _ => nofun) _

theorem kind_ne_of_unlock_eq_ok (huse : call.Uses account q) {a : Account} (h : ring.unlock account q = .ok a)
    {f : KeyringFault} (hf : (ring.serve call).1.fault? = some f) : f.kind ≠ .password := by
  cases call with
  | add => exact huse.elim
  | derive _ _ external change =>
    obtain ⟨rfl, rfl⟩ := huse
    rcases bind_eq_error_iff.mp (fault?_derived_iff.mp hf) with hf | ⟨a', ha, hf⟩
    · rw [h] at hf
      cases hf
    · exact faults_derive a' external change f hf
  | sign _ path digest _ =>
    obtain ⟨rfl, rfl⟩ := huse
    rcases bind_eq_error_iff.mp (fault?_signed_iff.mp hf) with hf | ⟨a', ha, hf⟩
    · rw [h] at hf
      cases hf
    · exact faults_sign a' path digest f hf

/-- Two passwords are the same to an account that has one of them. -/
def Alike (p q : String) : Prop := q = p ∨ Hmac256.Twins (Seed.utf8 q) (Seed.utf8 p)

theorem verifierOf_eq_of_alike {p : String} {salt : Bytes} (h : Alike p q) :
    Account.verifierOf p salt = Account.verifierOf q salt := by
  rcases h with rfl | htwins
  · rfl
  · unfold Account.verifierOf
    exact (Hmac256.stretch_eq_of_twins htwins).symm

theorem alike_of_verifierOf_eq {p : String} {salt : Bytes}
    (hfree : Hmac256.CollisionFree (Seed.utf8 q) (Seed.utf8 p) salt Account.rounds)
    (h : Account.verifierOf p salt = Account.verifierOf q salt) : Alike p q := by
  unfold Account.verifierOf at h
  rcases (Hmac256.stretch_eq_iff hfree).mp h.symm with hbytes | htwins
  · exact .inl (Seed.utf8_inj hbytes)
  · exact .inr htwins

/-- An account that was never added is not found. -/
theorem unlock_eq_notFound {calls : List Call} (h : latest? account calls = none) (q : String) :
    (after calls).unlock account q = .error (.notFound account) := by
  have hget := get?_after calls account
  rw [h, Option.map_none] at hget
  unfold unlock
  rw [hget]

/-- An account is opened by the passwords that are stretched to what is kept of its own. -/
theorem unlock_after {calls : List Call} {o : Origin} (h : latest? account calls = some o) (q : String) :
    (after calls).unlock account q = if Account.verifierOf o.password o.salt = Account.verifierOf q o.salt
      then .ok o.account else .error (.wrongPassword account) := by
  have hget := get?_after calls account
  rw [h, Option.map_some] at hget
  unfold unlock
  simp only [hget, Origin.account]

/-- **An account opens only with its password.**  Whatever was asked of a keyring before, and whenever an account is
used: one that was never added is not found; the password of the latest call that added it is not wrong, nor is a twin
of it; and any other password is wrong, unless the digest has a collision.  No use changes the keyring. -/
theorem opens_only_with_its_password (calls : List Call) (account : Bytes) :
    (latest? account calls = none → ∀ q call, Call.Uses account q call →
      ((after calls).serve call).1.fault? = some (.notFound account)) ∧
    (∀ o, latest? account calls = some o → ∀ q call, Call.Uses account q call →
      (Alike o.password q → ∀ f, ((after calls).serve call).1.fault? = some f → f.kind ≠ .password) ∧
      (¬ Alike o.password q → Hmac256.CollisionFree (Seed.utf8 q) (Seed.utf8 o.password) o.salt Account.rounds →
        ((after calls).serve call).1.fault? = some (.wrongPassword account))) ∧
    ∀ q call, Call.Uses account q call → after (calls ++ [call]) = after calls := by
  refine ⟨fun h q call huse => fault?_of_unlock_eq_error huse (unlock_eq_notFound h q), fun o h q call huse => ⟨?_, ?_⟩,
    fun q call huse => (after_concat calls call).trans (serve_of_uses huse)⟩
  · intro halike f hf
    have hopen := unlock_after h q
    rw [if_pos (verifierOf_eq_of_alike halike)] at hopen
    exact kind_ne_of_unlock_eq_ok huse hopen hf
  · intro hother hfree
    have hclosed := unlock_after h q
    rw [if_neg fun hsame => hother (alike_of_verifierOf_eq hfree hsame)] at hclosed
    exact fault?_of_unlock_eq_error huse hclosed

/-! ## A password and a twin of it -/

theorem alike_zero : Alike "open" "open\x00" := by
  have hutf8 : Seed.utf8 "open\x00" = Seed.utf8 "open" ++ Bytes.zeros 1 := by decide +kernel
  refine .inr ?_
  rw [hutf8]
  exact Hmac256.twins_append_zeros (by decide +kernel)

/-- An account that holds what is kept of one password is used with the other. -/
theorem derive_of_alike {o : Origin} (hopen : Alike o.password q)
    (hget : ring.accounts.get? account = some o.account) : ring.derive account q .none .none = .ok {} := by
  refine bind_eq_ok_iff.mpr ⟨o.account, ?_, rfl⟩
  unfold unlock
  simp only [hget, Origin.account, verifierOf_eq_of_alike hopen, if_true]

/-- **A zero at the end of a password does not count.**  The two passwords differ, and whatever account is added under
the first opens with the second; so does the account of `Sample.ring`. -/
theorem opened_with_twin : "open\x00" ≠ "open" ∧
    (∀ words salt name, ((after []).serve (.add words "open" salt)).1 = .added (.ok name) →
      ((after [.add words "open" salt]).serve (.derive name "open\x00" .none .none)).1 = .derived (.ok {})) ∧
    Sample.ring.accounts.get? Sample.name = some (Origin.account ⟨Sample.master, "open", []⟩) ∧
    (Sample.ring.serve (.derive Sample.name "open\x00" .none .none)).1 = .derived (.ok {}) := by
  have hsample : Sample.ring.accounts.get? Sample.name = some (Origin.account ⟨Sample.master, "open", []⟩) := if_pos rfl
  refine ⟨by decide, fun words salt name h => ?_, hsample, ?_⟩
  · obtain ⟨o, ho, hpassword⟩ := exists_origin_of_added h
    have hlatest : latest? name [.add words "open" salt] = some o := by
      rw [← List.nil_append [Call.add words "open" salt], latest?_concat, ho]
      rfl
    have hget := get?_after [.add words "open" salt] name
    rw [hlatest] at hget
    exact congrArg Answer.derived (derive_of_alike (hpassword ▸ alike_zero) hget)
  · exact congrArg Answer.derived (derive_of_alike alike_zero hsample)

end Keyring

end CellPurse
