/-
SchemaSemver.Text.Hexadecimal — numbers in hexadecimal digits.

Digits are read in either case and written in the lower one.
-/

namespace SchemaSemver.Text

/-- The value of a hexadecimal digit of either case. -/
def hexValue? (c : Char) : Option Nat :=
  if '0' ≤ c ∧ c ≤ '9' then some (c.toNat - '0'.toNat)
  else if 'a' ≤ c ∧ c ≤ 'f' then some (c.toNat - 'a'.toNat + 10)
  else if 'A' ≤ c ∧ c ≤ 'F' then some (c.toNat - 'A'.toNat + 10)
  else none

/-- The number that hexadecimal digits spell; `value` is the number in front of them. -/
def hexNumberFrom? (value : Nat) : List Char → Option Nat
  | [] => some value
  | c :: rest =>
    match hexValue? c with
    | some digit => hexNumberFrom? (16 * value + digit) rest
    | none => none

/-- The number that hexadecimal digits spell. -/
def hexNumber? (digits : List Char) : Option Nat := hexNumberFrom? 0 digits

/-- The lower-case hexadecimal digits of a number, padded with zeros to at least `width`. -/
def hexadecimal (width n : Nat) : List Char :=
  let digits := Nat.toDigits 16 n
  List.replicate (width - digits.length) '0' ++ digits

end SchemaSemver.Text
