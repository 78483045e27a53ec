import CellPurse.Bytes.Basic
import CellPurse.Fault
import CellPurse.Text.Blank
import CellPurse.Text.Digit

/-!
# CellPurse.Bytes.Hex — hexadecimal text of byte strings

* `Bytes.hex`: two lower-case digits a byte; `Bytes.hexText` puts `0x` in front;
* `Hex.decode`: reads such a text, with or without `0x`, digits of either case, and blanks between the pairs;
* `HexFault.badDigit`: where a digit was missing, counted in characters after the `0x`.  A character outside ASCII is
  reported before any other fault.

`Hex.decode_hexText`: what `hexText` writes is read back.
-/

namespace CellPurse

open Text

/-- Why a text is not hexadecimal. -/
inductive HexFault where
  /-- No digit at this position. -/
  | badDigit (position : Nat)
  deriving DecidableEq, Repr

/-- The fault in words. -/
def HexFault.message : HexFault → String
  | badDigit p => "non-hexadecimal number found in fromhex() arg at position " ++ toString p

instance : Fault HexFault := ⟨fun _ => .value, fun f => f.message⟩

namespace Bytes

/-- The digits of one byte. -/
def hexByte (b : UInt8) : List Char := [Digit.char (b.toNat / 16), Digit.char (b.toNat % 16)]

/-- The digits of a byte string. -/
def hexDigits (b : Bytes) : List Char := b.flatMap hexByte

/-- The byte string in lower-case hexadecimal. -/
def hex (b : Bytes) : String := String.ofList b.hexDigits

/-- The byte string in hexadecimal after `0x`. -/
def hexText (b : Bytes) : String := String.ofList ('0' :: 'x' :: b.hexDigits)

end Bytes

namespace Hex

/-- Reads pairs of digits from position `p` on. -/
def pairs : Nat → List Char → Except HexFault Bytes
  | _, [] => .ok []
  | p, c :: r =>
    if Blank.isAscii c then pairs (p + 1) r
    else match Digit.hex? c with
      | none => .error (.badDigit p)
      | some hi =>
        match r with
        | [] => .error (.badDigit (p + 1))
        | d :: r' =>
          match Digit.hex? d with
          | none => .error (.badDigit (p + 1))
          | some lo =>
            match pairs (p + 2) r' with
            | .ok b => .ok (UInt8.ofNat (16 * hi + lo) :: b)
            | .error e => .error e

/-- The text without one leading `0x`. -/
def strip : List Char → List Char
  | '0' :: 'x' :: r => r
  | '0' :: 'X' :: r => r
  | cs => cs

/-- Reads characters after the leading `0x`. -/
def decodeDigits (cs : List Char) : Except HexFault Bytes :=
  match cs.findIdx? fun c => 0x80 ≤ c.toNat with
  | some p => .error (.badDigit p)
  | none => pairs 0 cs

/-- Reads a hexadecimal text. -/
def decode (s : String) : Except HexFault Bytes := decodeDigits (strip s.toList)

/-! ### Reading what was written -/

theorem digit_ascii_all : ∀ n < 16, (Digit.char n).toNat < 0x80 := by decide

theorem hexByte_ascii (b : UInt8) : ∀ c ∈ Bytes.hexByte b, c.toNat < 0x80 := by
  have hb := b.toNat_lt
  simp only [Bytes.hexByte, List.mem_cons, List.not_mem_nil, or_false]
  rintro c (rfl | rfl)
  · exact digit_ascii_all _ (by omega)
  · exact digit_ascii_all _ (by omega)

theorem hexByte_blank_all : ∀ n < 16, Blank.isAscii (Digit.char n) = false := by decide

theorem pairs_hexDigits (b : Bytes) (p : Nat) : pairs p b.hexDigits = .ok b := by
  induction b generalizing p with
  | nil => rfl
  | cons d r ih =>
    have hd := d.toNat_lt
    have hhi : d.toNat / 16 < 16 := by omega
    have hlo : d.toNat % 16 < 16 := by omega
    have ihr := ih (p + 2)
    unfold Bytes.hexDigits at ihr
    have back : UInt8.ofNat (16 * (d.toNat / 16) + d.toNat % 16) = d := by
      rw [Nat.div_add_mod]; simp
    simp only [Bytes.hexDigits, List.flatMap_cons, Bytes.hexByte, List.cons_append, List.nil_append, pairs,
      hexByte_blank_all _ hhi, Digit.hex?_char hhi, Digit.hex?_char hlo, ihr, back]
    rfl

theorem decodeDigits_hexDigits (b : Bytes) : decodeDigits b.hexDigits = .ok b := by
  have h : (b.hexDigits.findIdx? fun c => 0x80 ≤ c.toNat) = none := by
    rw [List.findIdx?_eq_none_iff]
    intro c hc
    obtain ⟨d, _, hd⟩ := List.mem_flatMap.1 hc
    simpa using hexByte_ascii d c hd
  rw [decodeDigits, h]
  exact pairs_hexDigits b 0

/-- What `hexText` writes is read back. -/
theorem decode_hexText (b : Bytes) : decode b.hexText = .ok b := by
  simpa [decode, Bytes.hexText, strip] using decodeDigits_hexDigits b

end Hex

end CellPurse
