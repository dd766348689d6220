/-
SchemaSemver.Yaml.Number — the spellings of numbers.

Two grammars meet here. The narrow one decides which plain scalars are numbers without a tag; in it
underscores may stand between digits, and a number may be written in base sixty with colons. The
wide one decides which scalars can be read as numbers when a tag asks for it; in it digits of other
scripts count as those of ASCII.
-/
import SchemaSemver.Text.Blank
import SchemaSemver.Text.DecimalDigit
import SchemaSemver.Text.Hexadecimal
import SchemaSemver.Yaml.Token

namespace SchemaSemver.Yaml

/-! ## Parts -/

/-- The text without a sign in front. -/
def withoutSign : List Char → List Char
  | '+' :: rest => rest
  | '-' :: rest => rest
  | text => text

/-- Is the character a digit or an underscore? -/
def isDigitOrGap (c : Char) : Bool := c.isDigit || c == '_'

/-- Is the text a digit followed by digits and underscores, up to a rest that is given back? -/
def afterDigits? : List Char → Option (List Char)
  | c :: rest => if c.isDigit then some (rest.dropWhile isDigitOrGap) else none
  | [] => none

/-- Is the character one of the digits from zero to five? -/
def isSixtiethLead (c : Char) : Bool := '0' ≤ c && c ≤ '5'

/-- The rest after parts of one or two digits below sixty, each behind a colon. -/
def afterSixtieths : List Char → List Char
  | ':' :: a :: b :: rest =>
    if isSixtiethLead a && b.isDigit then afterSixtieths rest
    else if a.isDigit then afterSixtieths (b :: rest)
    else ':' :: a :: b :: rest
  | [':', a] => if a.isDigit then [] else [':', a]
  | text => text
termination_by text => text.length

/-- The rest after at least one part behind a colon. -/
def afterSixtieths? (text : List Char) : Option (List Char) :=
  let rest := afterSixtieths text
  if rest.length < text.length then some rest else none

/-- Is the text nothing, or an exponent with a sign? -/
def isSignedExponent : List Char → Bool
  | [] => true
  | e :: sign :: digits =>
    (e == 'e' || e == 'E') && (sign == '+' || sign == '-') && !digits.isEmpty
      && digits.all Char.isDigit
  | _ => false

/-! ## Numbers without a tag -/

/-- Is the text a whole number: binary, octal, decimal, hexadecimal or in base sixty? -/
def isInteger (text : List Char) : Bool :=
  match withoutSign text with
  | ['0'] => true
  | '0' :: 'b' :: rest => !rest.isEmpty && rest.all fun c => c == '0' || c == '1' || c == '_'
  | '0' :: 'x' :: rest =>
    !rest.isEmpty && rest.all fun c => (Text.hexValue? c).isSome || c == '_'
  | '0' :: rest => rest.all fun c => ('0' ≤ c && c ≤ '7') || c == '_'
  | digits =>
    match afterDigits? digits with
    | some [] => true
    | some rest => (afterSixtieths? rest).any List.isEmpty
    | none => false

/-- Is the text a number with a point, perhaps in base sixty, or with a point and digits alone? -/
def isPointed (text : List Char) : Bool :=
  match afterDigits? (withoutSign text) with
  | some rest =>
    match rest with
    | '.' :: fraction => isSignedExponent (fraction.dropWhile isDigitOrGap)
    | _ =>
      match afterSixtieths? rest with
      | some ('.' :: fraction) => fraction.all isDigitOrGap
      | _ => false
  | none =>
    match text with
    | '.' :: fraction => (afterDigits? fraction).any isSignedExponent
    | _ => false

/-- Is the text a word for infinity or for no number? -/
def isSpecialReal (text : List Char) : Bool :=
  [".inf", ".Inf", ".INF"].any (·.toList == withoutSign text)
    || [".nan", ".NaN", ".NAN"].any (·.toList == text)

/-- Is the text a number that is not whole? -/
def isReal (text : List Char) : Bool := isPointed text || isSpecialReal text

/-! ## Numbers that a tag asks for -/

/-- The form that a character of a numeral has in ASCII: a digit of another script is the digit of
its value, and another blank is a space. No numeral holds any other character beyond ASCII. -/
def numeralChar? (c : Char) : Option Char :=
  if c.toNat < 0x7F then some c
  else if Text.isBlank c then some ' '
  else (Text.digitValue? c).map fun value => Char.ofNat ('0'.toNat + value)

/-- Is the character a space, or a control character that moves on in a text? -/
def isNumeralGap (c : Char) : Bool := c == ' ' || ('\t' ≤ c && c ≤ '\r')

/-- A numeral in ASCII, without the gaps at its ends. -/
def numeral? (text : List Char) : Option (List Char) := do
  let chars ← text.mapM numeralChar?
  return ((chars.dropWhile isNumeralGap).reverse.dropWhile isNumeralGap).reverse

/-- The text without the mark of a base, which is a zero and a letter of either case. -/
def withoutBaseMark (letter : Char) : List Char → List Char
  | '0' :: c :: rest => if c.toLower = letter then rest else '0' :: c :: rest
  | text => text

/-- Is the text made of at least one digit of a base? -/
def isDigitsOf (base : Nat) (text : List Char) : Bool :=
  !text.isEmpty && text.all fun c => (Text.hexValue? c).any (· < base)

/-- Is the text a whole number of a base that is a power of two, with gaps, sign and mark if
wanted? -/
def isWholeIn (base : Nat) (text : List Char) : Bool :=
  (numeral? text).any fun numeral =>
    let digits := withoutSign numeral
    isDigitsOf base <|
      match base with
      | 2 => withoutBaseMark 'b' digits
      | 8 => withoutBaseMark 'o' digits
      | 16 => withoutBaseMark 'x' digits
      | _ => digits

/-- The parts of the text between the characters that separate. -/
def splitAtColons : List Char → List (List Char)
  | [] => [[]]
  | c :: rest =>
    match splitAtColons rest with
    | [] => [[c]]
    | first :: others => if c = ':' then [] :: first :: others else (c :: first) :: others

/-- Is the text a decimal whole number that is not too long? -/
def checkDecimal (text : List Char) : Except ScalarFault Unit :=
  match numeral? text with
  | none => .error .wrongNumber
  | some numeral =>
    let digits := withoutSign numeral
    if !isDigitsOf 10 digits then .error .wrongNumber
    else if Text.digitLimit < digits.length then .error .longNumber
    else .ok ()

/-- Is the text a whole number? One is in base sixty if it holds a colon; otherwise its beginning
tells the base. -/
def checkInteger (text : List Char) : Except ScalarFault Unit :=
  let written := text.filter (· != '_')
  let digits := withoutSign written
  let numeric (holds : Bool) : Except ScalarFault Unit :=
    if holds then .ok () else .error .wrongNumber
  match digits with
  | [] => .error .noNumber
  | ['0'] => .ok ()
  | '0' :: 'b' :: rest => numeric (isWholeIn 2 rest)
  | '0' :: 'x' :: rest => numeric (isWholeIn 16 rest)
  | '0' :: _ => numeric (isWholeIn 8 digits)
  | _ =>
    if digits.contains ':' then (splitAtColons digits).forM checkDecimal
    else checkDecimal digits

/-- Is the text nothing, or an exponent whose sign may be missing? -/
def isExponent : List Char → Bool
  | [] => true
  | e :: rest =>
    let digits := withoutSign rest
    e == 'e' && !digits.isEmpty && digits.all Char.isDigit

/-- Is the text, which has no gaps at its ends, a decimal number? -/
def isDecimalNumeral (numeral : List Char) : Bool :=
  let text := withoutSign numeral
  if ["inf", "infinity", "nan"].any (·.toList == text) then true
  else
    let whole := text.takeWhile Char.isDigit
    match text.dropWhile Char.isDigit with
    | '.' :: rest =>
      !(whole.isEmpty && (rest.takeWhile Char.isDigit).isEmpty)
        && isExponent (rest.dropWhile Char.isDigit)
    | rest => !whole.isEmpty && isExponent rest

/-- Is the text a decimal number, with gaps and sign if wanted? -/
def isDecimal (text : List Char) : Bool := (numeral? text).any isDecimalNumeral

/-- Is the weight of the first of so many parts in base sixty beyond the range of numbers with a
point? -/
def outweighs (parts : Nat) : Bool := Nat.pow 2 1024 ≤ Nat.pow 60 (parts - 1)

/-- Is the text a number, perhaps in base sixty? -/
def checkReal (text : List Char) : Except ScalarFault Unit :=
  let written := (text.filter (· != '_')).map Char.toLower
  let digits := withoutSign written
  let parts := splitAtColons digits
  if written.isEmpty then .error .noNumber
  else if digits = ".inf".toList ∨ digits = ".nan".toList then .ok ()
  else if !parts.all isDecimal then .error .wrongNumber
  else if outweighs parts.length then .error .numberTooLarge
  else .ok ()

end SchemaSemver.Yaml
