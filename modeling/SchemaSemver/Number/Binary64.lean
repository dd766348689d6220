/-
SchemaSemver.Number.Binary64 — numbers of 53 significant binary digits, and their shortest text.

A finite datum is `mantissa · 2 ^ exponent` with a mantissa below `2 ^ 53` and an exponent from
−1074 on; reading rounds a decimal to the nearest datum, a tie going to the even mantissa, and
everything too large becomes infinite. Writing looks for the decimal with the fewest digits among
those that are read back as the same datum, and of two such decimals takes the nearer one. All
arithmetic is on natural numbers.
-/

namespace SchemaSemver

/-- A binary floating-point number; zero has a sign too. -/
inductive Binary64 where
  | finite (negative : Bool) (mantissa : Nat) (exponent : Int)
  | infinite (negative : Bool)
  | nan
deriving DecidableEq, Repr

namespace Binary64

/-! ## Reading -/

/-- The quotient rounded to the nearest natural number, a tie going to the even one. -/
def divideToEven (numerator denominator : Nat) : Nat :=
  let quotient := numerator / denominator
  let twice := 2 * (numerator % denominator)
  if twice < denominator then quotient
  else if denominator < twice then quotient + 1
  else quotient + quotient % 2

/-- The quotient by `2 ^ exponent` as a pair of numerator and denominator. -/
def scaleDown (numerator denominator : Nat) (exponent : Int) : Nat × Nat :=
  if exponent < 0 then (numerator * Nat.pow 2 exponent.natAbs, denominator)
  else (numerator, denominator * Nat.pow 2 exponent.natAbs)

/-- The exponent at which the quotient has 53 binary digits before its point, but at least −1074. -/
def exponentOf (numerator denominator : Nat) : Int :=
  let guess : Int := (numerator.log2 : Int) - denominator.log2 - 52
  let (n, d) := scaleDown numerator denominator guess
  let exponent := if n < d * Nat.pow 2 52 then guess - 1 else guess
  if exponent < -1074 then -1074 else exponent

/-- The datum nearest to a positive quotient. -/
def ofQuotient (negative : Bool) (numerator denominator : Nat) : Binary64 :=
  let exponent := exponentOf numerator denominator
  let (n, d) := scaleDown numerator denominator exponent
  let mantissa := divideToEven n d
  let (mantissa, exponent) :=
    if mantissa = Nat.pow 2 53 then (Nat.pow 2 52, exponent + 1) else (mantissa, exponent)
  if 971 < exponent then infinite negative else finite negative mantissa exponent

/-- The datum nearest to `digits · 10 ^ exponent`. Decimals far outside the range are decided by
their size alone. -/
def ofDecimal (negative : Bool) (digits : Nat) (exponent : Int) : Binary64 :=
  let size : Int := (toString digits).length + exponent
  if digits = 0 ∨ size < -345 then finite negative 0 (-1074)
  else if 310 < size then infinite negative
  else if exponent < 0 then ofQuotient negative digits (Nat.pow 10 exponent.natAbs)
  else ofQuotient negative (digits * Nat.pow 10 exponent.natAbs) 1

/-- Is the number a zero of either sign? -/
def isZero : Binary64 → Bool
  | finite _ mantissa _ => mantissa == 0
  | _ => false

/-! ## The shortest text -/

/-- The magnitude of a finite datum as a quotient. -/
def magnitude (mantissa : Nat) (exponent : Int) : Nat × Nat :=
  if exponent < 0 then (mantissa, Nat.pow 2 exponent.natAbs)
  else (mantissa * Nat.pow 2 exponent.natAbs, 1)

/-- The number of decimal digits before the point of a positive quotient; zero or less when the
quotient is below one tenth. -/
def decimalPoint (numerator denominator : Nat) : Int :=
  let guess : Int := (toString numerator).length - (toString denominator).length
  let atLeast (power : Int) : Bool :=
    if power < 0 then denominator ≤ numerator * Nat.pow 10 power.natAbs
    else denominator * Nat.pow 10 power.natAbs ≤ numerator
  if atLeast guess then guess + 1 else guess

/-- The digits of the nearest point to the quotient on the grid of `count` significant digits,
with the exponent of the last digit, if it is read back as the given datum. A tie between two
points goes to the even one. -/
def candidate (datum : Binary64) (numerator denominator : Nat) (point : Int) (count : Nat) :
    Option (Nat × Int) :=
  let last := point - count
  let (n, d) :=
    if last < 0 then (numerator * Nat.pow 10 last.natAbs, denominator)
    else (numerator, denominator * Nat.pow 10 last.natAbs)
  let nearest := divideToEven n d
  let reads (digits : Nat) : Bool := ofDecimal false digits last == datum
  if reads nearest then some (nearest, last)
  else if reads (n / d) then some (n / d, last)
  else if reads (n / d + 1) then some (n / d + 1, last)
  else none

/-- The fewest digits that are read back as the datum, with the exponent of the last one. -/
def shortest (mantissa : Nat) (exponent : Int) : Nat × Int :=
  let (n, d) := magnitude mantissa exponent
  let point := decimalPoint n d
  let counts := (List.range 17).map (· + 1)
  (counts.findSome? (candidate (finite false mantissa exponent) n d point)).getD (n / d, 0)

/-- The digits without trailing zeros. -/
def significant (digits : List Char) : List Char :=
  (digits.reverse.dropWhile (· == '0')).reverse

/-- An exponent with its sign and at least two digits. -/
def exponentText (exponent : Int) : List Char :=
  let digits := (toString exponent.natAbs).toList
  let padded := if digits.length < 2 then '0' :: digits else digits
  (if exponent < 0 then '-' else '+') :: padded

/-- The text of digits whose decimal point stands after the first `point` of them: positional while
`point` is from −3 to 16, with an exponent otherwise. -/
def layout (digits : List Char) (point : Int) : List Char :=
  if point ≤ -4 ∨ 16 < point then
    match digits with
    | [] => ['0']
    | [first] => first :: 'e' :: exponentText (point - 1)
    | first :: rest => first :: '.' :: (rest ++ 'e' :: exponentText (point - 1))
  else if point ≤ 0 then
    '0' :: '.' :: (List.replicate point.natAbs '0' ++ digits)
  else if (digits.length : Int) ≤ point then
    digits ++ List.replicate (point.natAbs - digits.length) '0' ++ ['.', '0']
  else
    digits.take point.natAbs ++ '.' :: digits.drop point.natAbs

/-- The shortest text that is read back as the same number. -/
def text : Binary64 → String
  | nan => "nan"
  | infinite negative => if negative then "-inf" else "inf"
  | finite negative mantissa exponent =>
    let body :=
      if mantissa = 0 then ['0', '.', '0']
      else
        let (digits, last) := shortest mantissa exponent
        let written := (toString digits).toList
        layout (significant written) (written.length + last)
    String.ofList (if negative then '-' :: body else body)

end Binary64

end SchemaSemver
