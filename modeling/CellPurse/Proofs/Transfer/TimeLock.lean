import CellPurse.Proofs.Draft.Steps
import CellPurse.Proofs.Epoch.Since
import CellPurse.Transfer.LockedSource

/-!
# CellPurse.Proofs.Transfer.TimeLock — the time lock that is checked is the one that is claimed

The last eight bytes of the arguments of a locked cell are read twice: a source is judged by the time lock that is
decoded from them, and an input claims the number that they spell.

* `LockedArgs.raw`: this number; `LockedArgs.Violation`: the first thing that is wrong with arguments;
* `LockedArgs.parse_eq_ok_iff`, `LockedArgs.parse_eq_error_iff`: when arguments are accepted, and as what they are
  refused;
* `LockedArgs.parse_claims`: what is accepted is claimed bit for bit.
-/

namespace CellPurse

namespace LockedArgs

open Since

/-- The number in the last eight bytes of the arguments of a locked cell. -/
def raw (args : Bytes) : Nat := Bytes.toNatLE (args.drop System.keyHashSize)

/-- The first thing that is wrong with arguments, and its word. -/
inductive Violation (args : Bytes) : LockedFault → String → Prop where
  | length (size : args.length ≠ 28) : Violation args (.length args.length) "invalid_length"
  | flags (size : args.length = 28) (bits : Malformed (raw args)) : Violation args .flags "invalid_flags"
  | relative (size : args.length = 28) (formed : ¬ Malformed (raw args)) (bit : (raw args).testBit 63 = true) :
      Violation args .relative "not_absolute"
  | notEpoch (size : args.length = 28) (formed : ¬ Malformed (raw args)) (bit : (raw args).testBit 63 = false)
      (metric : (raw args).testBit 61 = false ∨ (raw args).testBit 62 = true) : Violation args .notEpoch "not_epoch"

variable {args : Bytes} {a : LockedArgs} {f : LockedFault} {word : String}

theorem raw_lt (h : args.length = 28) : raw args < 2 ^ 64 := by
  have hlt := Bytes.toNatLE_lt (args.drop System.keyHashSize)
  have hlength : (args.drop System.keyHashSize).length = 8 := by
    rw [List.length_drop, h]
    rfl
  rw [hlength] at hlt
  exact hlt

theorem ofBytes_drop (h : args.length = 28) : Since.ofBytes (args.drop System.keyHashSize) = decode (raw args) := by
  have hlength : (args.drop System.keyHashSize).length = 8 := by
    rw [List.length_drop, h]
    rfl
  rw [Since.ofBytes, if_pos hlength]
  rfl

/-- Which bits make the metric that of epochs. -/
theorem metric_eq_epochNumber_iff {raw : Nat} {s : Since} (h : decode raw = .ok s) :
    s.metric = .epochNumber ↔ raw.testBit 61 = true ∧ raw.testBit 62 = false := by
  obtain ⟨-, hmetric, -⟩ := decode_eq_ok_iff.mp h
  rw [Bits.field_two] at hmetric
  rw [← Metric.toNat_inj, ← hmetric]
  cases raw.testBit 61 <;> cases raw.testBit 62 <;> simp [Metric.toNat]

/-- Arguments of the right size are judged by the time lock that is decoded from them. -/
theorem parse_of_length (h : args.length = 28) : parse args = match decode (raw args) with
    | .error _ => .error .flags
    | .ok since =>
      if since.relative then .error .relative
      else if since.metric ≠ .epochNumber then .error .notEpoch
      else .ok ⟨args.take System.keyHashSize, since⟩ := by
  have hsize : args.length = System.lockedArgsSize := h
  unfold parse
  rw [if_neg (not_not.mpr hsize), ofBytes_drop h]
  cases decode (raw args) with
  | error e => rfl
  | ok since => simp [isAbsolute]

theorem parse_of_length_ne (h : args.length ≠ 28) : parse args = .error (.length args.length) := if_pos h

theorem parse_eq_ok_iff : parse args = .ok a ↔ args.length = 28 ∧ decode (raw args) = .ok a.since ∧
    a.since.relative = false ∧ a.since.metric = .epochNumber ∧ a.policyHash = args.take System.keyHashSize := by
  by_cases hsize : args.length = 28
  · rw [parse_of_length hsize]
    cases decode (raw args) with
    | error e => simp
    | ok since =>
      obtain ⟨policyHash, since'⟩ := a
      simp only [hsize, true_and, Except.ok.injEq]
      split_ifs with hrelative hmetric
      · refine iff_of_false nofun ?_
        rintro ⟨rfl, h, -⟩
        rw [hrelative] at h
        cases h
      · refine iff_of_false nofun ?_
        rintro ⟨rfl, -, h, -⟩
        exact hmetric h
      · rw [Except.ok.injEq, mk.injEq]
        constructor
        · rintro ⟨rfl, rfl⟩
          exact ⟨rfl, by simpa using hrelative, not_not.mp hmetric, rfl⟩
        · rintro ⟨rfl, -, -, rfl⟩
          exact ⟨rfl, rfl⟩
  · rw [parse_of_length_ne hsize]
    exact iff_of_false nofun fun h => hsize h.1

/-- Arguments are accepted if their time lock has the bits of an epoch that counts from the start of the chain. -/
theorem exists_parse_iff : (∃ a, parse args = .ok a) ↔
    args.length = 28 ∧ (∀ i, 56 ≤ i → i ≤ 60 → (raw args).testBit i = false) ∧ (raw args).testBit 62 = false ∧
      (raw args).testBit 63 = false ∧ (raw args).testBit 61 = true := by
  constructor
  · rintro ⟨a, h⟩
    obtain ⟨hsize, hdecode, hrelative, hmetric, -⟩ := parse_eq_ok_iff.mp h
    obtain ⟨hreserved, -, hbit, -⟩ := decode_eq_ok_iff.mp hdecode
    obtain ⟨hset, hclear⟩ := (metric_eq_epochNumber_iff hdecode).mp hmetric
    refine ⟨hsize, fun i hlow hhigh => ?_, hclear, hbit ▸ hrelative, hset⟩
    exact Bits.field_eq_zero_iff.mp hreserved i hlow (by omega)
  · rintro ⟨hsize, hreserved, hclear, hbit, hset⟩
    have hformed : ¬ Malformed (raw args) := by
      rintro (⟨i, hlow, hhigh, h⟩ | ⟨-, h⟩)
      · rw [hreserved i hlow hhigh] at h
        cases h
      · rw [hclear] at h
        cases h
    obtain ⟨s, hs⟩ := exists_decode_iff.mpr hformed
    have hrelative : s.relative = false := (decode_eq_ok_iff.mp hs).2.2.1.trans hbit
    have hmetric := (metric_eq_epochNumber_iff hs).mpr ⟨hset, hclear⟩
    exact ⟨⟨args.take System.keyHashSize, s⟩, parse_eq_ok_iff.mpr ⟨hsize, hs, hrelative, hmetric, rfl⟩⟩

theorem Violation.parse_eq (h : Violation args f word) : parse args = .error f := by
  cases h with
  | length size => exact parse_of_length_ne size
  | flags size bits =>
    rw [parse_of_length size]
    cases hdecode : decode (raw args) with
    | error e => rfl
    | ok s => exact absurd bits (exists_decode_iff.mp ⟨s, hdecode⟩)
  | relative size formed bit =>
    obtain ⟨s, hs⟩ := exists_decode_iff.mpr formed
    have hrelative : s.relative = true := (decode_eq_ok_iff.mp hs).2.2.1.trans bit
    rw [parse_of_length size, hs]
    exact if_pos hrelative
  | notEpoch size formed bit metric =>
    obtain ⟨s, hs⟩ := exists_decode_iff.mpr formed
    have hrelative : s.relative = false := (decode_eq_ok_iff.mp hs).2.2.1.trans bit
    have hmetric : s.metric ≠ .epochNumber := by
      rw [ne_eq, metric_eq_epochNumber_iff hs]
      rintro ⟨hset, hclear⟩
      simp [hset, hclear] at metric
    rw [parse_of_length size, hs]
    simp [hrelative, hmetric]

/-- Arguments that are not accepted have something wrong with them. -/
theorem exists_violation (h : ¬ ∃ a, parse args = .ok a) : ∃ f word, Violation args f word := by
  by_cases size : args.length = 28
  · by_cases bits : Malformed (raw args)
    · exact ⟨_, _, .flags size bits⟩
    · cases bit : (raw args).testBit 63 with
      | true => exact ⟨_, _, .relative size bits bit⟩
      | false =>
        refine ⟨_, _, .notEpoch size bits bit ?_⟩
        by_contra hepoch
        rw [not_or, Bool.not_eq_false, Bool.not_eq_true] at hepoch
        refine h (exists_parse_iff.mpr ⟨size, fun i hlow hhigh => ?_, hepoch.2, bit, hepoch.1⟩)
        by_contra hset
        exact bits (.inl ⟨i, hlow, hhigh, by simpa using hset⟩)
  · exact ⟨_, _, .length size⟩

/-- The word of a fault is that of what is wrong. -/
theorem Violation.kind (h : Violation args f word) : Fault.kind f = .locked word := by
  cases h <;> rfl

/-- Arguments that are not accepted are refused for the first thing that is wrong with them, and by its word. -/
theorem parse_eq_error_iff : parse args = .error f ↔ ∃ word, Fault.kind f = .locked word ∧ Violation args f word := by
  constructor
  · intro h
    have hno : ¬ ∃ a, parse args = .ok a := by
      rintro ⟨a, ha⟩
      rw [ha] at h
      cases h
    obtain ⟨f', word, hv⟩ := exists_violation hno
    obtain rfl : f' = f := Except.error.inj (hv.parse_eq.symm.trans h)
    exact ⟨word, hv.kind, hv⟩
  · rintro ⟨word, -, hv⟩
    exact hv.parse_eq

/-- **The time lock that is checked is the one that is claimed.**  Arguments are accepted exactly if they have 28 bytes
and the last eight of them spell a number with the bits of an absolute epoch; others are refused for the first thing
that is wrong.  The time lock of accepted arguments packs to this number again, and this number is what an input with
these arguments claims in every draft that takes it.  More generally, decoding and packing undo each other between the
numbers of 64 bits that are decoded and the time locks whose value has 56 bits. -/
theorem parse_claims (args : Bytes) :
    ((∃ a, parse args = .ok a) ↔
      args.length = 28 ∧ (∀ i, 56 ≤ i → i ≤ 60 → (raw args).testBit i = false) ∧ (raw args).testBit 62 = false ∧
        (raw args).testBit 63 = false ∧ (raw args).testBit 61 = true) ∧
    (∀ f, parse args = .error f ↔ ∃ word, Fault.kind f = .locked word ∧ Violation args f word) ∧
    (∀ a, parse args = .ok a → a.policyHash = args.take 20 ∧ a.since.encode = raw args ∧
      ∀ (d d' : Draft) (point : OutPoint) (cell : CellOutput) (skipCheck : Bool), cell.lock.isMultisig = true →
        cell.lock.args = args → d.addInput point cell skipCheck = .ok d' →
          d'.inputs = d.inputs ++ [⟨⟨point, raw args⟩, cell.lock⟩]) ∧
    (∀ n < 2 ^ 64, ∀ s, decode (n : Nat) = .ok s → s.encode = n ∧ 0 ≤ s.value ∧ s.value < 2 ^ 56) ∧
    ∀ s : Since, 0 ≤ s.value → s.value < 2 ^ 56 → s.encode < 2 ^ 64 ∧ decode s.encode = .ok s := by
  refine ⟨exists_parse_iff, fun _ => parse_eq_error_iff, fun a ha => ?_, fun n hn s => encode_of_decode hn,
    fun s => decode_encode⟩
  obtain ⟨hsize, hdecode, -, -, hhash⟩ := parse_eq_ok_iff.mp ha
  refine ⟨hhash, (encode_of_decode (raw_lt hsize) hdecode).1, fun d d' point cell skipCheck hmultisig hargs hadd => ?_⟩
  obtain ⟨-, -, rfl⟩ := Draft.addInput_eq_ok_iff.mp hadd
  have hsince : Draft.sinceOf cell.lock = raw args := by
    have hlocked : args.length = System.lockedArgsSize := hsize
    simp [Draft.sinceOf, hmultisig, hargs, hlocked, raw]
  rw [hsince]

namespace Sample

/-- The start of epoch 200. -/
def epochArgs : Bytes := List.replicate 20 7 ++ Bytes.ofNatLE 8 (2 ^ 61 + 200)

/-- A reserved bit is set, and the time lock is relative. -/
def spoiled : Bytes := List.replicate 20 7 ++ Bytes.ofNatLE 8 (2 ^ 63 + 2 ^ 57)

def point : OutPoint := ⟨[4], 0⟩

def cell : CellOutput := ⟨100, ⟨System.multisigCode, .type, epochArgs⟩, none⟩

def draft : Draft := { genesis := ⟨[], ⟨⟨[3], 0⟩, .depGroup⟩, ⟨⟨[3], 1⟩, .depGroup⟩⟩ }

end Sample

theorem parse_claims_sample : (∃ a, parse Sample.epochArgs = .ok a ∧ a.since.encode = 2 ^ 61 + 200) ∧
    (∃ d, Sample.draft.addInput Sample.point Sample.cell true = .ok d ∧
      d.inputs = [⟨⟨Sample.point, 2 ^ 61 + 200⟩, Sample.cell.lock⟩]) ∧
    parse Sample.spoiled = .error .flags := by
  obtain ⟨haccepted, -, hclaims, -⟩ := parse_claims Sample.epochArgs
  obtain ⟨a, ha⟩ := haccepted.mpr ⟨by decide, by decide, by decide, by decide, by decide⟩
  obtain ⟨-, hencode, hadd⟩ := hclaims a ha
  have hraw : raw Sample.epochArgs = 2 ^ 61 + 200 := by decide
  obtain ⟨d, hd⟩ : ∃ d, Sample.draft.addInput Sample.point Sample.cell true = .ok d := ⟨_, rfl⟩
  have hinputs := hadd Sample.draft d Sample.point Sample.cell true (by decide) rfl hd
  rw [hraw] at hencode hinputs
  have hspoiled := (parse_claims Sample.spoiled).2.1 .flags
  have hbits : Malformed (raw Sample.spoiled) := .inl ⟨57, by decide, by decide, by decide⟩
  exact ⟨⟨a, ha, hencode⟩, ⟨d, hd, hinputs⟩, hspoiled.mpr ⟨_, rfl, .flags (by decide) hbits⟩⟩

end LockedArgs

end CellPurse
