/-
SchemaSemver.Proofs.Json.Grammar — the texts that write JSON values.

The reader of JSON texts looks at one character after the other and takes the longest number it can.
Here is what it should accept, said without reading anything: `IsValue value text` holds when the
text writes the value, built up from the texts of its parts. White space may stand between any two
tokens, an object is written with members in any order and any number of times, and a character of a
string may be written as itself or as an escape.

Natural numbers are written by their decimal digits and nothing else, so a leading zero, a sign in
front of a positive number, a point and an exponent are not part of an integer. An integer of more
than 4300 digits is no value. `ComesToLong` says of a text that such an integer stands where a value
could stand, and that nothing in front of it is wrong.
-/
import SchemaSemver.Json.Reader

namespace SchemaSemver.Json

/-! ## §1 Gaps, words and numbers -/

/-- White space, or nothing. -/
def IsGap (text : List Char) : Prop := ∀ c ∈ text, isSpace c = true

/-- A decimal digit or more of them. -/
structure IsDigits (text : List Char) : Prop where
  some : text ≠ []
  digits : ∀ c ∈ text, c.isDigit = true

/-- The digits after a point, or neither. -/
inductive IsFraction : List Char → List Char → Prop where
  | none : IsFraction [] []
  | digits {digits : List Char} (h : IsDigits digits) : IsFraction digits ('.' :: digits)

/-- The sign of an exponent, which may be missing. -/
inductive IsExponentSign : Bool → List Char → Prop where
  | none : IsExponentSign false []
  | plus : IsExponentSign false ['+']
  | minus : IsExponentSign true ['-']

/-- Sign and digits of an exponent, or no exponent. -/
inductive IsExponent : Option (Bool × List Char) → List Char → Prop where
  | none : IsExponent none []
  | digits {letter : Char} {negative : Bool} {sign digits : List Char}
      (hletter : letter = 'e' ∨ letter = 'E') (hsign : IsExponentSign negative sign)
      (h : IsDigits digits) : IsExponent (some (negative, digits)) (letter :: (sign ++ digits))

/-- A number behind its sign. With a fraction or an exponent it is no integer. -/
inductive IsMagnitude (negative : Bool) : Value → List Char → Prop where
  | integer (n : Nat) :
      IsMagnitude negative (.integer (if negative then -n else n)) (Nat.toDigits 10 n)
  | real (n : Nat) {fraction fractionText exponentText : List Char}
      {exponent : Option (Bool × List Char)} (hfraction : IsFraction fraction fractionText)
      (hexponent : IsExponent exponent exponentText) (h : fraction ≠ [] ∨ exponent ≠ none) :
      IsMagnitude negative
        (.real (Binary64.ofDecimal negative (natOfDigits (Nat.toDigits 10 n ++ fraction))
          ((exponent.map fun e => signedInteger e.1 e.2).getD 0 - fraction.length)))
        (Nat.toDigits 10 n ++ (fractionText ++ exponentText))

/-- A number: only a minus can be its sign. -/
inductive IsNumber : Value → List Char → Prop where
  | positive {value : Value} {text : List Char} (h : IsMagnitude false value text) :
      IsNumber value text
  | negative {value : Value} {text : List Char} (h : IsMagnitude true value text) :
      IsNumber value ('-' :: text)

/-- A word, or a number that is no integer with too many digits. -/
inductive IsScalar : Value → List Char → Prop where
  | word {word : String} {value : Value} (h : (word, value) ∈ words) : IsScalar value word.toList
  | number {value : Value} {text : List Char} (h : IsNumber value text)
      (hshort : isLong value = false) : IsScalar value text

/-! ## §2 Strings -/

/-- Four hexadecimal digits and the code unit that they spell. -/
structure IsCodeUnit (unit : Nat) (digits : List Char) : Prop where
  length : digits.length = 4
  number : Text.hexNumber? digits = some unit

/-- The text goes on with the escape of a low surrogate. -/
def BeginsWithLow (text : List Char) : Prop :=
  ∃ low digits rest, text = '\\' :: 'u' :: (digits ++ rest) ∧ IsCodeUnit low digits
    ∧ isLowSurrogate low = true

/-- The characters of a string and the text between its quotes. Two escapes that are the halves of a
surrogate pair are one character, and never two. -/
inductive IsContent : List Char → List Char → Prop where
  | nil : IsContent [] []
  | plain {c : Char} {chars text : List Char} (hquote : c ≠ '"') (hbackslash : c ≠ '\\')
      (hcontrol : ¬ c.toNat < 0x20) (h : IsContent chars text) : IsContent (c :: chars) (c :: text)
  | letter {letter c : Char} {chars text : List Char} (hletter : simpleEscape? letter = some c)
      (h : IsContent chars text) : IsContent (c :: chars) ('\\' :: letter :: text)
  | unit {unit : Nat} {digits chars text : List Char} (hunit : IsCodeUnit unit digits)
      (halone : isHighSurrogate unit = true → ¬ BeginsWithLow text) (h : IsContent chars text) :
      IsContent (charOfUnit unit :: chars) ('\\' :: 'u' :: (digits ++ text))
  | pair {high low : Nat} {highDigits lowDigits chars text : List Char}
      (hhigh : IsCodeUnit high highDigits) (hhighKind : isHighSurrogate high = true)
      (hlow : IsCodeUnit low lowDigits) (hlowKind : isLowSurrogate low = true)
      (h : IsContent chars text) :
      IsContent (charOfPair high low :: chars)
        ('\\' :: 'u' :: (highDigits ++ '\\' :: 'u' :: (lowDigits ++ text)))

/-! ## §3 Values -/

mutual

/-- The text writes the value. -/
inductive IsValue : Value → List Char → Prop where
  | scalar {value : Value} {text : List Char} (h : IsScalar value text) : IsValue value text
  | string {s : String} {text : List Char} (h : IsContent s.toList text) :
      IsValue (.string s) ('"' :: (text ++ ['"']))
  | emptyArray {gap : List Char} (hgap : IsGap gap) : IsValue (.array []) ('[' :: (gap ++ [']']))
  | array {gap text : List Char} {items : List Value} (hgap : IsGap gap)
      (h : IsItems items text) : IsValue (.array items) ('[' :: (gap ++ (text ++ [']'])))
  | object {members : List Member} {text : List Char} (h : IsObject members text) :
      IsValue (.object (distinctMembers members)) text

/-- Items with commas between them. -/
inductive IsItems : List Value → List Char → Prop where
  | last {value : Value} {text gap : List Char} (h : IsValue value text) (hgap : IsGap gap) :
      IsItems [value] (text ++ gap)
  | more {value : Value} {items : List Value} {text gap gap' rest : List Char}
      (h : IsValue value text) (hgap : IsGap gap) (hgap' : IsGap gap')
      (hrest : IsItems items rest) :
      IsItems (value :: items) (text ++ (gap ++ ',' :: (gap' ++ rest)))

/-- The text writes an object with these members, of which several may have one name. -/
inductive IsObject : List Member → List Char → Prop where
  | empty {gap : List Char} (hgap : IsGap gap) : IsObject [] ('\x7b' :: (gap ++ ['\x7d']))
  | members {gap text : List Char} {members : List Member} (hgap : IsGap gap)
      (h : IsMembers members text) : IsObject members ('\x7b' :: (gap ++ (text ++ ['\x7d'])))

/-- Members with commas between them. -/
inductive IsMembers : List Member → List Char → Prop where
  | last {member : Member} {text gap : List Char} (h : IsMember member text) (hgap : IsGap gap) :
      IsMembers [member] (text ++ gap)
  | more {member : Member} {members : List Member} {text gap gap' rest : List Char}
      (h : IsMember member text) (hgap : IsGap gap) (hgap' : IsGap gap')
      (hrest : IsMembers members rest) :
      IsMembers (member :: members) (text ++ (gap ++ ',' :: (gap' ++ rest)))

/-- A name and its value. -/
inductive IsMember : Member → List Char → Prop where
  | mk {name : String} {value : Value} {nameText gap gap' text : List Char}
      (hname : IsContent name.toList nameText) (hgap : IsGap gap) (hgap' : IsGap gap')
      (h : IsValue value text) :
      IsMember (name, value) ('"' :: (nameText ++ '"' :: (gap ++ ':' :: (gap' ++ text))))

end

/-! ## §4 Integers with too many digits -/

/-- The text writes an integer with more digits than are read. -/
def IsLongInteger (text : List Char) : Prop :=
  ∃ n, IsNumber (.integer n) text ∧ Text.integerBound ≤ n.natAbs

/-- Nothing at the front of the text goes on with an integer. -/
structure EndsInteger (text : List Char) : Prop where
  digit : ∀ c after, text = c :: after → c.isDigit = false
  fraction : ∀ digits written after, IsFraction digits written → text = written ++ after →
    digits = []
  exponent : ∀ exponent written after, IsExponent exponent written → text = written ++ after →
    exponent = none

mutual

/-- The text begins with a value as far as an integer with too many digits; nothing is said about
what stands behind it. -/
inductive LongInValue : List Char → Prop where
  | here {literal rest : List Char} (h : IsLongInteger literal) (hrest : EndsInteger rest) :
      LongInValue (literal ++ rest)
  | array {gap rest : List Char} (hgap : IsGap gap) (h : LongInItems rest) :
      LongInValue ('[' :: (gap ++ rest))
  | object {gap rest : List Char} (hgap : IsGap gap) (h : LongInMembers rest) :
      LongInValue ('\x7b' :: (gap ++ rest))

/-- The text begins with items as far as such an integer. -/
inductive LongInItems : List Char → Prop where
  | here {text : List Char} (h : LongInValue text) : LongInItems text
  | later {value : Value} {text gap gap' rest : List Char} (h : IsValue value text)
      (hgap : IsGap gap) (hgap' : IsGap gap') (hrest : LongInItems rest) :
      LongInItems (text ++ (gap ++ ',' :: (gap' ++ rest)))

/-- The text begins with members as far as such an integer. -/
inductive LongInMembers : List Char → Prop where
  | here {name : String} {nameText gap gap' rest : List Char}
      (hname : IsContent name.toList nameText) (hgap : IsGap gap) (hgap' : IsGap gap')
      (h : LongInValue rest) :
      LongInMembers ('"' :: (nameText ++ '"' :: (gap ++ ':' :: (gap' ++ rest))))
  | later {member : Member} {text gap gap' rest : List Char} (h : IsMember member text)
      (hgap : IsGap gap) (hgap' : IsGap gap') (hrest : LongInMembers rest) :
      LongInMembers (text ++ (gap ++ ',' :: (gap' ++ rest)))

end

/-! ## §5 Whole texts -/

/-- The whole text comes to an integer with too many digits before anything in it is wrong. -/
def ComesToLong (text : List Char) : Prop :=
  ∃ before rest, IsGap before ∧ LongInValue rest ∧ text = before ++ rest

/-- The whole text writes the value, white space around it apart. -/
def IsDocument (value : Value) (text : List Char) : Prop :=
  ∃ before written after, IsGap before ∧ IsValue value written ∧ IsGap after
    ∧ text = before ++ (written ++ after)

end SchemaSemver.Json
