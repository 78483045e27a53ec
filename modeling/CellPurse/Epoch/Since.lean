import CellPurse.Bytes.Basic
import CellPurse.Epoch.Basic
import CellPurse.Fault
import CellPurse.Number.Literal

/-!
# CellPurse.Epoch.Since — time locks

A time lock says from when on a cell may be spent.  In 64 bits: bit 63 makes it relative, bits 61 and 62 name the
metric, bits 56 to 60 are reserved, and the rest is the value.

* `Since.decode`, `Since.encode`: the packed form;
* `Since.ofBytes`: the packed form in eight bytes, low byte first;
* `Since.epoch`: the value as an epoch, where the metric is that of epochs.
-/

namespace CellPurse

/-- What a time lock counts. -/
inductive Metric where
  | blockNumber
  | epochNumber
  | timestamp
  deriving DecidableEq, Repr

namespace Metric

/-- The number of a metric. -/
def toNat : Metric → Nat
  | blockNumber => 0
  | epochNumber => 1
  | timestamp => 2

/-- The metric with a number. -/
def ofNat? : Nat → Option Metric
  | 0 => some blockNumber
  | 1 => some epochNumber
  | 2 => some timestamp
  | _ => none

/-- The metric in a message. -/
def name : Metric → String
  | blockNumber => "BLOCK_NUMBER"
  | epochNumber => "EPOCH_NUMBER_WITH_FRACTION"
  | timestamp => "TIMESTAMP"

@[simp] theorem ofNat?_toNat (m : Metric) : ofNat? m.toNat = some m := by cases m <;> rfl

theorem toNat_lt (m : Metric) : m.toNat < 3 := by cases m <;> decide

end Metric

/-- What is wrong with a time lock. -/
inductive SinceFault where
  /-- A reserved bit is set. -/
  | reserved (raw : Int)
  /-- No metric has these bits. -/
  | metric (raw : Int)
  /-- The packed form has not eight bytes. -/
  | length (n : Nat)
  /-- An epoch was asked of a lock that counts something else. -/
  | notEpoch (m : Metric)
  deriving DecidableEq, Repr

/-- The fault in words. -/
def SinceFault.message : SinceFault → String
  | reserved raw => "reserved since flag bits set: " ++ Literal.hexTextPadded 18 raw
  | metric raw => "invalid since metric flag: " ++ Literal.hexTextPadded 18 raw
  | length n => "since must be 8 bytes, got " ++ toString n
  | notEpoch m => "since metric is " ++ m.name ++ ", not an epoch"

instance : Fault SinceFault := ⟨fun _ => .since, fun f => f.message⟩

/-- A time lock. -/
structure Since where
  relative : Bool
  metric : Metric
  value : Int
  deriving DecidableEq, Repr

namespace Since

/-- Takes the packed form apart. -/
def decode (raw : Int) : Except SinceFault Since :=
  if Bits.field 56 5 raw ≠ 0 then .error (.reserved raw)
  else match Metric.ofNat? (Bits.field 61 2 raw) with
    | none => .error (.metric raw)
    | some m => .ok ⟨Bits.field 63 1 raw ≠ 0, m, Bits.field 0 56 raw⟩

/-- Takes the packed form in bytes apart. -/
def ofBytes (data : Bytes) : Except SinceFault Since :=
  if data.length = 8 then decode (Bytes.toNatLE data) else .error (.length data.length)

/-- The packed form. -/
def encode (s : Since) : Nat :=
  (if s.relative then 2 ^ 63 else 0) + s.metric.toNat * 2 ^ 61 + Bits.field 0 56 s.value

/-- The lock counts from the start of the chain. -/
def isAbsolute (s : Since) : Bool := !s.relative

/-- The value as an epoch. -/
def epoch (s : Since) : Except SinceFault Epoch :=
  if s.metric = .epochNumber then .ok (.ofFullValue s.value) else .error (.notEpoch s.metric)

end Since

end CellPurse
