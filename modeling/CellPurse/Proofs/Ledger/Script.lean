import CellPurse.Cells.Index
import CellPurse.Proofs.Molecule.Table

/-!
# CellPurse.Proofs.Ledger.Script — scripts that can be written

* `Script.size`, `Script.exists_hash_iff`: a script has a hash when its size in binary form fits a word;
* `Index.exists_byHash_iff`: scripts can be named by their hashes when each of them has one;
* `Script.faults_hash`, `Index.faults_byHash`: otherwise a word is too wide.
-/

namespace CellPurse

open Outcome

namespace Script

/-- The size in binary form: a header, the hash of the code, a byte and the arguments after their length. -/
def size (s : Script) : Nat := 21 + s.codeHash.length + s.args.length

theorem exists_serialize_iff {s : Script} : (∃ b, s.serialize = .ok b) ↔ s.size < 2 ^ 32 := by
  have hbytes : ∀ {args : Bytes}, Molecule.bytes s.args = .ok args → args.length = 4 + s.args.length := by
    intro args h
    obtain ⟨size, hsize, h⟩ := bind_eq_ok_iff.mp h
    rw [← pure_eq_ok_iff.mp h, List.length_append, Molecule.length_of_u32 hsize]
  have htable : ∀ {args : Bytes}, args.length = 4 + s.args.length →
      ((∃ b, Molecule.table [s.codeHash, [UInt8.ofNat s.hashType.toNat], args] = .ok b) ↔ s.size < 2 ^ 32) := by
    intro args hargs
    rw [Molecule.exists_table_iff]
    simp only [List.flatten_cons, List.flatten_nil, List.length_append, List.length_cons, List.length_nil, hargs, size]
    omega
  constructor
  · rintro ⟨b, h⟩
    obtain ⟨args, hargs, h⟩ := bind_eq_ok_iff.mp h
    exact (htable (hbytes hargs)).mp ⟨b, h⟩
  · intro h
    have hargs : Molecule.bytes s.args = .ok (Bytes.ofNatLE 4 s.args.length ++ s.args) := by
      have hlt : s.args.length < 2 ^ 32 := by
        unfold size at h
        omega
      exact bind_eq_ok_iff.mpr ⟨_, Molecule.u32_natCast_eq_ok_iff.mpr ⟨hlt, rfl⟩, rfl⟩
    obtain ⟨b, hb⟩ := (htable (hbytes hargs)).mpr h
    exact ⟨b, bind_eq_ok_iff.mpr ⟨_, hargs, hb⟩⟩

theorem faults_serialize (s : Script) : Faults (· = .tooWide) s.serialize :=
  ((Molecule.faults_u32 _).bind fun _ => faults_pure _).bind fun _ => Molecule.faults_table _

/-- A script has a hash when its binary form fits. -/
theorem exists_hash_iff {s : Script} : (∃ b, s.hash = .ok b) ↔ s.size < 2 ^ 32 := by
  rw [← exists_serialize_iff]
  constructor
  · rintro ⟨_, h⟩
    obtain ⟨b, hb, -⟩ := bind_eq_ok_iff.mp h
    exact ⟨b, hb⟩
  · rintro ⟨b, hb⟩
    exact ⟨_, bind_eq_ok_iff.mpr ⟨b, hb, rfl⟩⟩

theorem faults_hash (s : Script) : Faults (· = .tooWide) s.hash := (faults_serialize s).bind fun _ => faults_pure _

theorem hash_eq_error_iff {s : Script} {f : MoleculeFault} : s.hash = .error f ↔ f = .tooWide ∧ 2 ^ 32 ≤ s.size := by
  rw [← Nat.not_lt, ← exists_hash_iff]
  constructor
  · intro h
    refine ⟨faults_hash s f h, ?_⟩
    rintro ⟨b, hb⟩
    cases h.symm.trans hb
  · rintro ⟨rfl, hnone⟩
    cases h : s.hash with
    | ok b => exact absurd ⟨b, h⟩ hnone
    | error g => rw [faults_hash s g h]

theorem length_of_hash {s : Script} {b : Bytes} (h : s.hash = .ok b) : b.length = System.hashSize := by
  obtain ⟨c, -, h⟩ := bind_eq_ok_iff.mp h
  rw [← pure_eq_ok_iff.mp h, Hash.length_chain]
  rfl

end Script

namespace Index

/-- Scripts can be named by their hashes when each of them has one. -/
theorem exists_byHash_iff {scripts : List Script} :
    (∃ locks, byHash scripts = .ok locks) ↔ ∀ s ∈ scripts, s.size < 2 ^ 32 := by
  unfold byHash
  generalize ([] : Assoc Bytes Script) = before
  induction scripts generalizing before with
  | nil => exact ⟨fun _ => nofun, fun _ => ⟨before, rfl⟩⟩
  | cons s r ih =>
    rw [List.forall_mem_cons, ← Script.exists_hash_iff, List.foldlM_cons]
    constructor
    · rintro ⟨locks, h⟩
      obtain ⟨next, hnext, h⟩ := bind_eq_ok_iff.mp h
      obtain ⟨b, hb, -⟩ := bind_eq_ok_iff.mp hnext
      exact ⟨⟨b, hb⟩, (ih next).mp ⟨locks, h⟩⟩
    · rintro ⟨⟨b, hb⟩, hr⟩
      obtain ⟨locks, h⟩ := (ih (Assoc.set b s before)).mpr hr
      exact ⟨locks, bind_eq_ok_iff.mpr ⟨_, bind_eq_ok_iff.mpr ⟨b, hb, rfl⟩, h⟩⟩

theorem faults_byHash (scripts : List Script) : Faults (· = .tooWide) (byHash scripts) := by
  unfold byHash
  generalize ([] : Assoc Bytes Script) = before
  induction scripts generalizing before with
  | nil => exact faults_pure _
  | cons s r ih =>
    rw [List.foldlM_cons]
    exact ((Script.faults_hash s).bind fun _ => faults_pure _).bind fun _ => ih _

end Index

end CellPurse
