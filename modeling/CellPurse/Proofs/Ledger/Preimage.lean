import CellPurse.Ledger.Transaction
import CellPurse.Proofs.Molecule.Unambiguous

/-!
# CellPurse.Proofs.Ledger.Preimage — the bytes behind a hash

Scripts, cells and transactions are known from their binary form, so that what is hashed, and signed, has one meaning.

* `unambiguous_script`, `unambiguous_cellOutput` and the others: no two values of a kind are written alike;
* `Transaction.Hashed`: every hash that a transaction names has the size of a hash.  In a vector of fixed items this
  size is all that keeps the items apart;
* **`serialize_unambiguous`**: the raw form determines all but the witnesses, and the whole form the transaction.
-/

namespace CellPurse

open Outcome Molecule

theorem HashType.byte_inj {a b : HashType} (h : UInt8.ofNat a.toNat = UInt8.ofNat b.toNat) : a = b := by
  revert h
  cases a <;> cases b <;> decide

theorem DepType.byte_inj {a b : DepType} (h : UInt8.ofNat a.toNat = UInt8.ofNat b.toNat) : a = b := by
  revert h
  cases a <;> cases b <;> decide

/-! ## Scripts and cells -/

theorem unambiguous_script : Unambiguous Script.serialize := by
  intro s s' data h h'
  unfold Script.serialize at h h'
  obtain ⟨args, hargs, h⟩ := bind_eq_ok_iff.mp h
  obtain ⟨args', hargs', h'⟩ := bind_eq_ok_iff.mp h'
  have hparts := unambiguous_table h h'
  simp only [List.cons.injEq, and_true] at hparts
  obtain ⟨hcode, htype, rfl⟩ := hparts
  cases s
  cases s'
  simp only at hcode htype hargs hargs'
  rw [hcode, HashType.byte_inj htype, unambiguous_bytes hargs hargs']

/-- A table is not empty: its size is in front. -/
theorem ne_nil_of_table {items : List Bytes} {data : Bytes} (h : table items = .ok data) : data ≠ [] := by
  unfold table at h
  obtain ⟨size, hsize, h⟩ := bind_eq_ok_iff.mp h
  obtain ⟨places, -, h⟩ := bind_eq_ok_iff.mp h
  have hlen := length_of_u32 hsize
  rintro rfl
  have hnil := congrArg List.length (pure_eq_ok_iff.mp h)
  simp [hlen] at hnil

/-- A script that may be absent: absence has no bytes, and a script has some. -/
theorem optional_script_inj {a b : Option Script} {x y : Option Bytes} (ha : a.mapM Script.serialize = .ok x)
    (hb : b.mapM Script.serialize = .ok y) (h : option x = option y) : a = b := by
  have hne : ∀ {s : Script} {data : Bytes}, s.serialize = .ok data → data ≠ [] := by
    intro s data hs
    unfold Script.serialize at hs
    obtain ⟨_, -, hs⟩ := bind_eq_ok_iff.mp hs
    exact ne_nil_of_table hs
  cases a with
  | none =>
    cases ha
    cases b with
    | none => rfl
    | some t =>
      rw [Option.mapM_some] at hb
      obtain ⟨data, hdata, rfl⟩ := map_eq_ok_iff.mp hb
      exact absurd h.symm (hne hdata)
  | some s =>
    rw [Option.mapM_some] at ha
    obtain ⟨data, hdata, rfl⟩ := map_eq_ok_iff.mp ha
    cases b with
    | none =>
      cases hb
      exact absurd h (hne hdata)
    | some t =>
      rw [Option.mapM_some] at hb
      obtain ⟨data', hdata', rfl⟩ := map_eq_ok_iff.mp hb
      have heq : data = data' := h
      subst heq
      rw [unambiguous_script hdata hdata']

theorem unambiguous_cellOutput : Unambiguous CellOutput.serialize := by
  intro o o' data h h'
  unfold CellOutput.serialize at h h'
  obtain ⟨type, htype, h⟩ := bind_eq_ok_iff.mp h
  obtain ⟨capacity, hcapacity, h⟩ := bind_eq_ok_iff.mp h
  obtain ⟨lock, hlock, h⟩ := bind_eq_ok_iff.mp h
  obtain ⟨type', htype', h'⟩ := bind_eq_ok_iff.mp h'
  obtain ⟨capacity', hcapacity', h'⟩ := bind_eq_ok_iff.mp h'
  obtain ⟨lock', hlock', h'⟩ := bind_eq_ok_iff.mp h'
  have hparts := unambiguous_table h h'
  simp only [List.cons.injEq, and_true] at hparts
  obtain ⟨rfl, rfl, hoption⟩ := hparts
  have h₁ := unambiguous_wordOf 8 hcapacity hcapacity'
  have h₂ := unambiguous_script hlock hlock'
  have h₃ := optional_script_inj htype htype' hoption
  cases o
  cases o'
  simp only at h₁ h₂ h₃
  rw [h₁, h₂, h₃]

/-! ## Items of fixed size

The place in an out point and the kind of a dependency stand at the end and have a size of their own, so that these
values are unambiguous whatever the size of the hash before them. -/

theorem outPoint_eq_ok_iff {p : OutPoint} {data : Bytes} :
    p.serialize = .ok data ↔ ∃ i, u32 p.index = .ok i ∧ p.txHash ++ i = data := by
  unfold OutPoint.serialize
  rw [bind_eq_ok_iff]
  simp only [pure_eq_ok_iff]

theorem unambiguous_outPoint : Unambiguous OutPoint.serialize := by
  intro p p' data h h'
  obtain ⟨i, hi, h⟩ := outPoint_eq_ok_iff.mp h
  obtain ⟨i', hi', h'⟩ := outPoint_eq_ok_iff.mp h'
  have hlen : i.length = i'.length := (length_of_wordOf hi).trans (length_of_wordOf hi').symm
  obtain ⟨hhash, rfl⟩ := List.append_inj' (h.trans h'.symm) hlen
  have hindex := unambiguous_wordOf 4 hi hi'
  cases p
  cases p'
  simp only at hhash hindex
  rw [hhash, hindex]

theorem length_of_outPoint {p : OutPoint} {data : Bytes} (h : p.serialize = .ok data) :
    data.length = p.txHash.length + 4 := by
  obtain ⟨i, hi, rfl⟩ := outPoint_eq_ok_iff.mp h
  rw [List.length_append, length_of_wordOf hi]

theorem unambiguous_cellDep : Unambiguous CellDep.serialize := by
  intro d d' data h h'
  unfold CellDep.serialize at h h'
  obtain ⟨p, hp, h⟩ := bind_eq_ok_iff.mp h
  obtain ⟨p', hp', h'⟩ := bind_eq_ok_iff.mp h'
  have heq := (pure_eq_ok_iff.mp h).trans (pure_eq_ok_iff.mp h').symm
  obtain ⟨rfl, htype⟩ := List.append_inj' heq rfl
  have hpoint := unambiguous_outPoint hp hp'
  have hkind := DepType.byte_inj (List.singleton_inj.mp htype)
  cases d
  cases d'
  simp only at hpoint hkind
  rw [hpoint, hkind]

theorem length_of_cellDep {d : CellDep} {data : Bytes} (h : d.serialize = .ok data) :
    data.length = d.outPoint.txHash.length + 5 := by
  unfold CellDep.serialize at h
  obtain ⟨p, hp, h⟩ := bind_eq_ok_iff.mp h
  rw [← pure_eq_ok_iff.mp h, List.length_append, length_of_outPoint hp, List.length_singleton]

theorem unambiguous_cellInput : Unambiguous CellInput.serialize := by
  intro i i' data h h'
  unfold CellInput.serialize at h h'
  obtain ⟨since, hsince, h⟩ := bind_eq_ok_iff.mp h
  obtain ⟨p, hp, h⟩ := bind_eq_ok_iff.mp h
  obtain ⟨since', hsince', h'⟩ := bind_eq_ok_iff.mp h'
  obtain ⟨p', hp', h'⟩ := bind_eq_ok_iff.mp h'
  have heq := (pure_eq_ok_iff.mp h).trans (pure_eq_ok_iff.mp h').symm
  have hlen : since.length = since'.length := (length_of_wordOf hsince).trans (length_of_wordOf hsince').symm
  obtain ⟨rfl, rfl⟩ := List.append_inj heq hlen
  have h₁ := unambiguous_wordOf 8 hsince hsince'
  have h₂ := unambiguous_outPoint hp hp'
  cases i
  cases i'
  simp only at h₁ h₂
  rw [h₁, h₂]

theorem length_of_cellInput {i : CellInput} {data : Bytes} (h : i.serialize = .ok data) :
    data.length = i.previous.txHash.length + 12 := by
  unfold CellInput.serialize at h
  obtain ⟨since, hsince, h⟩ := bind_eq_ok_iff.mp h
  obtain ⟨p, hp, h⟩ := bind_eq_ok_iff.mp h
  rw [← pure_eq_ok_iff.mp h, List.length_append, length_of_wordOf hsince, length_of_outPoint hp]
  omega

/-! ## Transactions -/

namespace Transaction

/-- Every hash that the transaction names has the size of a hash. -/
structure Hashed (t : Transaction) : Prop where
  cellDeps : ∀ d ∈ t.cellDeps, d.outPoint.txHash.length = System.hashSize
  headerDeps : ∀ h ∈ t.headerDeps, h.length = System.hashSize
  inputs : ∀ i ∈ t.inputs, i.previous.txHash.length = System.hashSize

/-- The vectors of a transaction that are written, apart from the items behind them. -/
theorem serializeRaw_eq_ok_iff {t : Transaction} {data : Bytes} :
    t.serializeRaw = .ok data ↔ ∃ version deps headers inputs outputs outputsData,
      u32 t.version = .ok version ∧
      (∃ items, t.cellDeps.mapM CellDep.serialize = .ok items ∧ fixvec items = .ok deps) ∧
      fixvec t.headerDeps = .ok headers ∧
      (∃ items, t.inputs.mapM CellInput.serialize = .ok items ∧ fixvec items = .ok inputs) ∧
      (∃ items, t.outputs.mapM CellOutput.serialize = .ok items ∧ dynvec items = .ok outputs) ∧
      (∃ items, t.outputsData.mapM bytes = .ok items ∧ dynvec items = .ok outputsData) ∧
      table [version, deps, headers, inputs, outputs, outputsData] = .ok data := by
  unfold serializeRaw
  simp only [bind_eq_ok_iff]
  constructor
  · rintro ⟨version, h₁, depItems, h₂, deps, h₃, headers, h₄, inputItems, h₅, inputs, h₆, outputItems, h₇, outputs, h₈,
      dataItems, h₉, outputsData, h₁₀, h⟩
    exact ⟨version, deps, headers, inputs, outputs, outputsData, h₁, ⟨depItems, h₂, h₃⟩, h₄, ⟨inputItems, h₅, h₆⟩,
      ⟨outputItems, h₇, h₈⟩, ⟨dataItems, h₉, h₁₀⟩, h⟩
  · rintro ⟨version, deps, headers, inputs, outputs, outputsData, h₁, ⟨depItems, h₂, h₃⟩, h₄, ⟨inputItems, h₅, h₆⟩,
      ⟨outputItems, h₇, h₈⟩, ⟨dataItems, h₉, h₁₀⟩, h⟩
    exact ⟨version, h₁, depItems, h₂, deps, h₃, headers, h₄, inputItems, h₅, inputs, h₆, outputItems, h₇, outputs, h₈,
      dataItems, h₉, outputsData, h₁₀, h⟩

theorem fields_eq_of_serializeRaw {t u : Transaction} (ht : t.Hashed) (hu : u.Hashed) {data : Bytes}
    (h : t.serializeRaw = .ok data) (h' : u.serializeRaw = .ok data) :
    t.version = u.version ∧ t.cellDeps = u.cellDeps ∧ t.headerDeps = u.headerDeps ∧ t.inputs = u.inputs ∧
      t.outputs = u.outputs ∧ t.outputsData = u.outputsData := by
  obtain ⟨version, deps, headers, inputs, outputs, outputsData, hversion, ⟨_, hdeps, hdepsv⟩, hheaders,
    ⟨_, hinputs, hinputsv⟩, ⟨_, houtputs, houtputsv⟩, ⟨_, hdata, hdatav⟩, h⟩ := serializeRaw_eq_ok_iff.mp h
  obtain ⟨version', deps', headers', inputs', outputs', outputsData', hversion', ⟨_, hdeps', hdepsv'⟩, hheaders',
    ⟨_, hinputs', hinputsv'⟩, ⟨_, houtputs', houtputsv'⟩, ⟨_, hdata', hdatav'⟩, h'⟩ := serializeRaw_eq_ok_iff.mp h'
  have hparts := unambiguous_table h h'
  simp only [List.cons.injEq, and_true] at hparts
  obtain ⟨rfl, rfl, rfl, rfl, rfl, rfl⟩ := hparts
  have hdep : ∀ {t : Transaction}, t.Hashed → ∀ d ∈ t.cellDeps, ∀ b, d.serialize = .ok b → b.length = 37 := by
    intro t ht d hd b hb
    rw [length_of_cellDep hb, ht.cellDeps d hd]
    rfl
  have hinput : ∀ {t : Transaction}, t.Hashed → ∀ i ∈ t.inputs, ∀ b, i.serialize = .ok b → b.length = 44 := by
    intro t ht i hi b hb
    rw [length_of_cellInput hb, ht.inputs i hi]
    rfl
  refine ⟨unambiguous_wordOf 4 hversion hversion', ?_, ?_, ?_, ?_, ?_⟩
  · exact fixvec_mapM_inj unambiguous_cellDep (hdep ht) (hdep hu) hdeps hdeps' hdepsv hdepsv'
  · exact fixvec_inj ht.headerDeps hu.headerDeps hheaders hheaders'
  · exact fixvec_mapM_inj unambiguous_cellInput (hinput ht) (hinput hu) hinputs hinputs' hinputsv hinputsv'
  · have hitems := unambiguous_dynvec houtputsv houtputsv'
    subst hitems
    exact unambiguous_cellOutput.mapM houtputs houtputs'
  · have hitems := unambiguous_dynvec hdatav hdatav'
    subst hitems
    exact unambiguous_bytes.mapM hdata hdata'

theorem eq_of_serialize {t u : Transaction} (ht : t.Hashed) (hu : u.Hashed) {data : Bytes}
    (h : t.serialize = .ok data) (h' : u.serialize = .ok data) : t = u := by
  unfold serialize at h h'
  simp only [bind_eq_ok_iff] at h h'
  obtain ⟨raw, hraw, items, hitems, witnesses, hwitnesses, h⟩ := h
  obtain ⟨raw', hraw', items', hitems', witnesses', hwitnesses', h'⟩ := h'
  have hparts := unambiguous_table h h'
  simp only [List.cons.injEq, and_true] at hparts
  obtain ⟨rfl, rfl⟩ := hparts
  obtain ⟨h₁, h₂, h₃, h₄, h₅, h₆⟩ := fields_eq_of_serializeRaw ht hu hraw hraw'
  have hsame := unambiguous_dynvec hwitnesses hwitnesses'
  subst hsame
  have h₇ := unambiguous_bytes.mapM hitems hitems'
  cases t
  cases u
  simp only at h₁ h₂ h₃ h₄ h₅ h₆ h₇
  rw [h₁, h₂, h₃, h₄, h₅, h₆, h₇]

/-- **The preimage of a transaction's hash is unambiguous**: transactions with the same raw bytes agree in all but
their witnesses, and those with the same bytes agree.  Scripts with the same bytes agree, whatever the size of their
hashes. -/
theorem serialize_unambiguous :
    (∀ t u : Transaction, t.Hashed → u.Hashed → ∀ data, t.serializeRaw = .ok data → u.serializeRaw = .ok data →
      t.version = u.version ∧ t.cellDeps = u.cellDeps ∧ t.headerDeps = u.headerDeps ∧ t.inputs = u.inputs ∧
        t.outputs = u.outputs ∧ t.outputsData = u.outputsData) ∧
    (∀ t u : Transaction, t.Hashed → u.Hashed → ∀ data, t.serialize = .ok data → u.serialize = .ok data → t = u) ∧
    (∀ s s' : Script, ∀ data, s.serialize = .ok data → s'.serialize = .ok data → s = s') := by
  refine ⟨?_, ?_, ?_⟩
  · intro t u ht hu data h h'
    exact fields_eq_of_serializeRaw ht hu h h'
  · intro t u ht hu data h h'
    exact eq_of_serialize ht hu h h'
  · intro s s' data h h'
    exact unambiguous_script h h'

namespace Sample

/-- A key pays two others, and the second output has a type. -/
def unsigned : Transaction where
  cellDeps := [⟨⟨List.replicate 32 1, 0⟩, .depGroup⟩, ⟨⟨List.replicate 32 2, 3⟩, .code⟩]
  headerDeps := [List.replicate 32 3]
  inputs := [{ previous := ⟨List.replicate 32 4, 1⟩, since := 2 ^ 61 + 7 }]
  outputs := [{ capacity := 6100000000, lock := System.sighashLock (List.replicate 20 5) },
    { capacity := 2 ^ 64 - 1, lock := ⟨[], .data1, []⟩, type := some ⟨[6], .data, List.replicate 300 7⟩ }]
  outputsData := [[], [8]]

/-- The payment with its signature. -/
def signed : Transaction := { unsigned with witnesses := [List.replicate 85 9, []] }

/-- The signature is put in again. -/
def resigned : Transaction := { signed with witnesses := (signed.witnesses.map List.reverse).map List.reverse }

theorem hashed_unsigned : unsigned.Hashed := ⟨by decide, by decide, by decide⟩

theorem hashed_signed : signed.Hashed := ⟨by decide, by decide, by decide⟩

end Sample

theorem serialize_unambiguous_sample :
    Sample.unsigned.Hashed ∧ Sample.signed.Hashed ∧ Sample.resigned.Hashed ∧
    (∃ data, Sample.unsigned.serializeRaw = .ok data ∧ Sample.signed.serializeRaw = .ok data ∧
      Sample.unsigned.inputs = Sample.signed.inputs ∧ Sample.unsigned.outputs = Sample.signed.outputs) ∧
    (∃ data, Sample.signed.serialize = .ok data ∧ Sample.resigned.serialize = .ok data ∧
      Sample.signed = Sample.resigned) ∧
    (∃ data, (System.sighashLock [5]).serialize = .ok data ∧
      System.sighashLock [5] = ⟨System.sighashCode, .type, [5]⟩) := by
  obtain ⟨hraw, hwhole, hscript⟩ := serialize_unambiguous
  have hu := Sample.hashed_unsigned
  have hs := Sample.hashed_signed
  have hr : Sample.resigned.Hashed := ⟨by decide, by decide, by decide⟩
  refine ⟨hu, hs, hr, ?_, ?_, ?_⟩
  · have hok : Sample.unsigned.serializeRaw.toOption.isSome = true := by decide +kernel
    obtain ⟨data, hdata⟩ := Option.isSome_iff_exists.mp hok
    have h := toOption_eq_some_iff.mp hdata
    have h' : Sample.signed.serializeRaw = .ok data := h
    obtain ⟨-, -, -, hinputs, houtputs, -⟩ := hraw _ _ hu hs data h h'
    exact ⟨data, h, h', hinputs, houtputs⟩
  · have hok : Sample.signed.serialize.toOption.isSome = true := by decide +kernel
    have hsame : Sample.resigned.serialize.toOption = Sample.signed.serialize.toOption := by decide +kernel
    obtain ⟨data, hdata⟩ := Option.isSome_iff_exists.mp hok
    have h := toOption_eq_some_iff.mp hdata
    have h' := toOption_eq_some_iff.mp (hsame.trans hdata)
    exact ⟨data, h, h', hwhole _ _ hs hr data h h'⟩
  · have hok : (System.sighashLock [5]).serialize.toOption.isSome = true := by decide +kernel
    obtain ⟨data, hdata⟩ := Option.isSome_iff_exists.mp hok
    have h := toOption_eq_some_iff.mp hdata
    exact ⟨data, h, hscript _ _ data h h⟩

end Transaction

end CellPurse
