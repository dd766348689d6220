/-
SchemaSemver.Text.DecimalDigit — the decimal digits of all scripts, and how many a number may have.

Scripts have decimal digits of their own, always ten characters in a row from zero to nine. The
table lists the digits zero, as the fourteenth edition of the character database assigns them.

Whole numbers are neither read nor written where they have more than 4300 digits.
-/

namespace SchemaSemver.Text

/-- The digits zero of all scripts, in ascending order. -/
def zeroDigits : List Nat :=
  [0x30, 0x660, 0x6F0, 0x7C0, 0x966, 0x9E6, 0xA66, 0xAE6, 0xB66, 0xBE6, 0xC66, 0xCE6, 0xD66,
   0xDE6, 0xE50, 0xED0, 0xF20, 0x1040, 0x1090, 0x17E0, 0x1810, 0x1946, 0x19D0, 0x1A80, 0x1A90,
   0x1B50, 0x1BB0, 0x1C40, 0x1C50, 0xA620, 0xA8D0, 0xA900, 0xA9D0, 0xA9F0, 0xAA50, 0xABF0,
   0xFF10, 0x104A0, 0x10D30, 0x11066, 0x110F0, 0x11136, 0x111D0, 0x112F0, 0x11450, 0x114D0,
   0x11650, 0x116C0, 0x11730, 0x118E0, 0x11950, 0x11C50, 0x11D50, 0x11DA0, 0x16A60, 0x16AC0,
   0x16B50, 0x1D7CE, 0x1D7D8, 0x1D7E2, 0x1D7EC, 0x1D7F6, 0x1E140, 0x1E2F0, 0x1E950, 0x1FBF0]

/-- The value of a decimal digit of any script. -/
def digitValue? (c : Char) : Option Nat :=
  (zeroDigits.find? fun first => first ≤ c.toNat && c.toNat < first + 10).map (c.toNat - ·)

/-- The digits of ASCII have the values that their places give them. -/
theorem digitValue?_of_isDigit (c : Char) (h : c.isDigit = true) :
    digitValue? c = some (c.toNat - '0'.toNat) := by
  simp only [Char.isDigit, Bool.and_eq_true, decide_eq_true_eq] at h
  have low : 0x30 ≤ c.toNat := UInt32.le_iff_toNat_le.1 h.1
  have high : c.toNat ≤ 0x39 := UInt32.le_iff_toNat_le.1 h.2
  simp [digitValue?, zeroDigits, low, show c.toNat < 0x30 + 10 by omega]

/-- The most decimal digits that a whole number can have to be read or written. -/
def digitLimit : Nat := 4300

/-- The least number with too many digits. -/
def integerBound : Nat := Nat.pow 10 digitLimit

/-- Does an integer have too many digits? -/
def isLong (n : Int) : Bool := decide (integerBound ≤ n.natAbs)

end SchemaSemver.Text
