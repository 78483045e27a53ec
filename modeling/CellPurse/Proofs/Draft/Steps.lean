import CellPurse.Proofs.Outcome
import CellPurse.Transfer.Draft

/-!
# CellPurse.Proofs.Draft.Steps — what a step does to a draft

One equivalence for each step: when it succeeds, and what the draft is then.  No proof about drafts opens a step
otherwise.

* `addPolicy_eq_ok_iff`, `addInput_eq_ok_iff`, `addOutput_eq_ok_iff`, `addSignature_eq_ok_iff`, `finish_eq_ok_iff`;
* `signaturesOf_set`: a signature changes what is known of its lock alone.
-/

namespace CellPurse.Draft

open Outcome

variable {d d' : Draft}

theorem guard_eq_ok_iff {u : Unit} : d.guard = .ok u ↔ d.finalized = false := by
  unfold guard
  cases d.finalized <;> simp

/-- A finished draft is refused before anything else is looked at. -/
theorem guard_bind {α : Type} (d : Draft) (x : Except DraftFault α) :
    (d.guard >>= fun _ => x) = if d.finalized then .error .finalized else x := by
  unfold guard
  cases d.finalized <;> rfl

theorem addPolicy_eq_ok_iff {policy : Multisig} : d.addPolicy policy = .ok d' ↔
    d.finalized = false ∧ ∃ hash, policy.hash = .ok hash ∧ d' = { d with policies := d.policies.set hash policy } := by
  unfold addPolicy
  simp only [bind_eq_ok_iff, guard_eq_ok_iff, mapError_eq_ok_iff, pure_eq_ok_iff]
  constructor
  · rintro ⟨-, hopen, hash, hh, rfl⟩
    exact ⟨hopen, hash, hh, rfl⟩
  · rintro ⟨hopen, hash, hh, rfl⟩
    exact ⟨(), hopen, hash, hh, rfl⟩

theorem addInput_eq_ok_iff {point : OutPoint} {cell : CellOutput} {skipCheck : Bool} :
    d.addInput point cell skipCheck = .ok d' ↔
      d.finalized = false ∧ (skipCheck = false → d.checkLock point cell.lock = .ok ()) ∧
        d' = { d with inputs := d.inputs ++ [⟨⟨point, sinceOf cell.lock⟩, cell.lock⟩] } := by
  unfold addInput
  rw [bind_eq_ok_iff]
  cases skipCheck with
  | true =>
    constructor
    · rintro ⟨⟨⟩, hopen, h⟩
      exact ⟨guard_eq_ok_iff.mp hopen, nofun, (Except.ok.inj h).symm⟩
    · rintro ⟨hopen, -, rfl⟩
      exact ⟨(), guard_eq_ok_iff.mpr hopen, rfl⟩
  | false =>
    constructor
    · rintro ⟨⟨⟩, hopen, h⟩
      obtain ⟨⟨⟩, hlock, h⟩ := bind_eq_ok_iff.mp h
      exact ⟨guard_eq_ok_iff.mp hopen, fun _ => hlock, (pure_eq_ok_iff.mp h).symm⟩
    · rintro ⟨hopen, hlock, rfl⟩
      exact ⟨(), guard_eq_ok_iff.mpr hopen, bind_eq_ok_iff.mpr ⟨(), hlock rfl, rfl⟩⟩

theorem addOutput_eq_ok_iff {output : CellOutput} {data : Bytes} : d.addOutput output data = .ok d' ↔
    d.finalized = false ∧ d' = { d with outputs := d.outputs ++ [⟨output, data⟩] } := by
  unfold addOutput
  simp only [bind_eq_ok_iff, guard_eq_ok_iff, pure_eq_ok_iff]
  constructor
  · rintro ⟨-, hopen, rfl⟩
    exact ⟨hopen, rfl⟩
  · rintro ⟨hopen, rfl⟩
    exact ⟨(), hopen, rfl⟩

/-- Some signatures with one more, unless it is there. -/
def joined (group : List Bytes) (signature : Bytes) : List Bytes :=
  if group.contains signature then group else group ++ [signature]

theorem addSignature_eq_ok_iff {lock : Script} {signature : Bytes} : d.addSignature lock signature = .ok d' ↔
    d.finalized = false ∧ signature.length = System.signatureSize ∧
      d' = { d with signatures := d.signatures.set lock (joined (d.signaturesOf lock) signature) } := by
  unfold addSignature
  rw [bind_eq_ok_iff]
  by_cases hs : signature.length = System.signatureSize
  · simp only [hs, ne_eq, not_true_eq_false, if_false, guard_eq_ok_iff, true_and]
    constructor
    · rintro ⟨⟨⟩, hopen, h⟩
      exact ⟨hopen, (Except.ok.inj h).symm⟩
    · rintro ⟨hopen, rfl⟩
      exact ⟨(), hopen, rfl⟩
  · simp only [hs, ne_eq, not_false_eq_true, if_true, false_and, and_false, iff_false]
    rintro ⟨-, -, h⟩
    cases h

theorem signaturesOf_set (d : Draft) (lock other : Script) (group : List Bytes) :
    signaturesOf { d with signatures := d.signatures.set lock group } other =
      if lock = other then group else d.signaturesOf other := by
  unfold signaturesOf
  rw [Assoc.get?_set]
  split <;> rfl

theorem finish_eq_ok_iff {tx : Transaction} : d.finish = .ok (tx, d') ↔
    ∃ witnesses, d.groups.foldlM d.placeWitness d.unsigned.witnesses = .ok witnesses ∧
      tx = { d.unsigned with witnesses } ∧ d' = { d with finalized := true } := by
  unfold finish
  simp only [bind_eq_ok_iff, pure_eq_ok_iff, Prod.mk.injEq]
  constructor
  · rintro ⟨witnesses, h, rfl, rfl⟩
    exact ⟨witnesses, h, rfl, rfl⟩
  · rintro ⟨witnesses, h, rfl, rfl⟩
    exact ⟨witnesses, h, rfl, rfl⟩

end CellPurse.Draft
