import CellPurse.Json.Basic
import CellPurse.Number.Power
import CellPurse.Settings.Numeral
import CellPurse.Transfer.Limits

/-!
# CellPurse.Settings.Field — values of settings

A setting is a text or a part of a document, and it has a range.  Every fault in a group of settings is told, not only
the first one.

* `FieldFault`: a setting and what is wrong with it;
* `Field.count`, `Field.positiveReal`: integers from a bound on, and real numbers above zero;
* `Limits.ofFields`: the limits of a transfer.
-/

namespace CellPurse

/-- What is wrong with a value. -/
inductive FieldCause where
  /-- The text is no integer. -/
  | noInteger
  /-- The integer has too many digits. -/
  | hugeInteger
  /-- The value is of a kind that is never an integer. -/
  | wrongKind
  /-- The number has a fraction. -/
  | fraction
  /-- The number is infinite or none at all. -/
  | notFinite
  /-- The text is no real number. -/
  | noReal
  /-- The number is below its bound. -/
  | below
  /-- The number is not above its bound. -/
  | notAbove
  /-- There is no such setting. -/
  | unknown
  deriving DecidableEq, Repr

/-- The word of a cause. -/
def FieldCause.name : FieldCause → String
  | noInteger => "int_parsing"
  | hugeInteger => "int_parsing_size"
  | wrongKind => "int_type"
  | fraction => "int_from_float"
  | notFinite => "finite_number"
  | noReal => "float_parsing"
  | below => "greater_than_equal"
  | notAbove => "greater_than"
  | unknown => "extra_forbidden"

/-- A setting with a fault. -/
structure FieldFault where
  field : String
  cause : FieldCause
  deriving DecidableEq, Repr

/-- Faults in the order of their settings. -/
def FieldFault.sorted (fs : List FieldFault) : List FieldFault := fs.mergeSort fun a b => a.field ≤ b.field

namespace Field

/-- The settings that are given, by their names. -/
abbrev Source := String → Option Json

/-- The first size at which a number with a point counts as no integer any more. -/
def wholeLimit : Nat := 2 ^ 63

/-- The integer that a value stands for. -/
def integer : Json → Except FieldCause Int
  | .int n => .ok n
  | .bool b => .ok (if b then 1 else 0)
  | .str s => (Numeral.integer s.chars).mapError fun
    | .malformed => .noInteger
    | .tooLong => .hugeInteger
  | .float x =>
    match Binary64.view x with
    | .finite negative m e =>
      let n := Binary64.magnitude m e
      if e < 0 ∧ m % 2 ^ (-e).toNat ≠ 0 then .error .fraction
      else if wholeLimit ≤ n then .error .hugeInteger
      else .ok (if negative then -(n : Int) else n)
    | _ => .error .notFinite
  | _ => .error .wrongKind

/-- Reads a setting that has a default. -/
def read {α : Type} (source : Source) (field : String) (default : α) (reading : Json → Except FieldCause α) :
    Except FieldFault α :=
  match source field with
  | none => .ok default
  | some v => (reading v).mapError (FieldFault.mk field)

/-- An integer from a bound on. -/
def atLeast (least : Nat) (v : Json) : Except FieldCause { n : Nat // least ≤ n } := do
  let n ← integer v
  if h : least ≤ n.toNat then if 0 ≤ n then pure ⟨n.toNat, h⟩ else throw .below else throw .below

/-- A natural number. -/
def count (v : Json) : Except FieldCause Nat := Subtype.val <$> atLeast 0 v

/-- A double above zero; what is not a number is above nothing. -/
def positiveReal (v : Json) : Except FieldCause Float :=
  match v with
  | .str s =>
    match Numeral.real? s.chars with
    | some x => if 0.0 < x then .ok x else .error .notAbove
    | none => .error .noReal
  | _ => .error .noReal

/-- The fault of a reading. -/
def fault? {α : Type} : Except FieldFault α → Option FieldFault
  | .ok _ => none
  | .error f => some f

end Field

/-- The limits among some settings. -/
def Limits.ofFields (source : Field.Source) : Except (List FieldFault) Limits :=
  let fee := Field.read source "fee_ceiling" Limits.usual.fee Field.count
  let cell := Field.read source "min_cell_capacity" Limits.usual.cell Field.count
  let depth := Field.read source "derive_change_max_len" ⟨Limits.usual.depth, Limits.usual.depth_pos⟩ (Field.atLeast 1)
  match fee, cell, depth with
  | .ok fee, .ok cell, .ok depth => .ok ⟨fee, cell, depth.val, depth.property⟩
  | _, _, _ => .error (FieldFault.sorted ([Field.fault? fee, Field.fault? cell, Field.fault? depth].filterMap id))

end CellPurse
