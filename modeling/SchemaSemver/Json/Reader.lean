/-
SchemaSemver.Json.Reader — reading JSON texts.

The reader accepts standard JSON, and besides it the three number words `NaN`, `Infinity` and
`-Infinity`. Each fault names what was expected and where; the place is kept as the part of the text
that was not read yet, so no position is carried along, and turned into line, column and offset
only in the message. A surrogate escape without its partner stands for U+FFFD.

An integer of more than 4300 digits is not read, and where one stands reading breaks off: that is no
fault of the text.
-/
import SchemaSemver.Json.Value
import SchemaSemver.Text.DecimalDigit
import SchemaSemver.Text.Hexadecimal

namespace SchemaSemver.Json

/-! ## Faults -/

/-- What is wrong with a JSON text. -/
inductive Fault where
  | value
  | propertyName
  | colon
  | comma
  | extraData
  | unterminatedString
  | controlCharacter
  | escape
  | unicodeEscape
  | byteOrderMark
deriving DecidableEq, Repr

/-- The fault as it is named in messages. -/
def Fault.text : Fault → String
  | value => "Expecting value"
  | propertyName => "Expecting property name enclosed in double quotes"
  | colon => "Expecting ':' delimiter"
  | comma => "Expecting ',' delimiter"
  | extraData => "Extra data"
  | unterminatedString => "Unterminated string starting at"
  | controlCharacter => "Invalid control character at"
  | escape => "Invalid \\escape"
  | unicodeEscape => "Invalid \\uXXXX escape"
  | byteOrderMark => "Unexpected UTF-8 BOM (decode using utf-8-sig)"

/-- A fault, and the rest of the text from its place on. -/
structure FaultAt where
  fault : Fault
  rest : List Char
deriving DecidableEq, Repr

/-- The fault with its place in the text: line and column count from one, the offset from zero. -/
def FaultAt.message (fault : FaultAt) (text : List Char) : String :=
  let offset := text.length - fault.rest.length
  let before := text.take offset
  let line := before.count '\n' + 1
  let column := (before.reverse.takeWhile (· != '\n')).length + 1
  fault.fault.text ++ ": line " ++ toString line ++ " column " ++ toString column
    ++ " (char " ++ toString offset ++ ")"

/-- What prevents reading on. -/
inductive Obstacle where
  | fault (fault : FaultAt)
  /-- An integer has more digits than are read. -/
  | longInteger
deriving DecidableEq, Repr

/-! ## Blanks and digits -/

/-- Is the character JSON white space? -/
def isSpace (c : Char) : Bool := c == ' ' || c == '\t' || c == '\n' || c == '\r'

/-- The text without the white space at its front. -/
def skipSpace (text : List Char) : List Char := text.dropWhile isSpace

/-- The digits at the front of a text, and the rest. -/
def spanDigits (text : List Char) : List Char × List Char :=
  (text.takeWhile Char.isDigit, text.dropWhile Char.isDigit)

/-- The value of a decimal digit. -/
def digitValue (c : Char) : Nat := c.toNat - '0'.toNat

/-- The number that decimal digits spell. -/
def natOfDigits (digits : List Char) : Nat :=
  digits.foldl (fun n c => 10 * n + digitValue c) 0

/-! ## Numbers -/

/-- The digits before the point: a single zero, or digits that begin with another one. -/
def readWhole : List Char → Option (List Char × List Char)
  | '0' :: rest => some (['0'], rest)
  | c :: rest =>
    if c.isDigit then
      let (digits, rest) := spanDigits rest
      some (c :: digits, rest)
    else none
  | [] => none

/-- The digits after a point; without any the point does not belong to the number. -/
def readFraction : List Char → List Char × List Char
  | '.' :: rest =>
    match spanDigits rest with
    | ([], _) => ([], '.' :: rest)
    | (digits, rest) => (digits, rest)
  | text => ([], text)

/-- The sign of an exponent, and the rest. -/
def readSign : List Char → Bool × List Char
  | '+' :: rest => (false, rest)
  | '-' :: rest => (true, rest)
  | text => (false, text)

/-- The exponent; without digits its letter does not belong to the number. -/
def readExponent (text : List Char) : Option (Bool × List Char) × List Char :=
  match text with
  | c :: rest =>
    if c = 'e' ∨ c = 'E' then
      let (negative, afterSign) := readSign rest
      match spanDigits afterSign with
      | ([], _) => (none, text)
      | (digits, rest) => (some (negative, digits), rest)
    else (none, text)
  | [] => (none, text)

/-- An integer with its sign. -/
def signedInteger (negative : Bool) (digits : List Char) : Int :=
  let n : Int := natOfDigits digits
  if negative then -n else n

/-- Does an integer have more digits than are read? -/
def isLong : Value → Bool
  | .integer n => Text.isLong n
  | _ => false

/-- The number after its sign: the longest one that stands at the front of the text. -/
def readNumber (negative : Bool) (text : List Char) : Option (Value × List Char) :=
  match readWhole text with
  | none => none
  | some (whole, afterWhole) =>
    let (fraction, afterFraction) := readFraction afterWhole
    let (exponent, rest) := readExponent afterFraction
    match fraction, exponent with
    | [], none => some (.integer (signedInteger negative whole), rest)
    | _, _ =>
      let scale := (exponent.map fun e => signedInteger e.1 e.2).getD 0
      let number := Binary64.ofDecimal negative (natOfDigits (whole ++ fraction))
        (scale - fraction.length)
      some (.real number, rest)

/-- The number at the front of the text, with its sign. -/
def readSigned : List Char → Option (Value × List Char)
  | '-' :: rest => readNumber true rest
  | text => readNumber false text

/-! ## Strings -/

/-- The character that a letter after a backslash stands for. -/
def simpleEscape? : Char → Option Char
  | '"' => some '"'
  | '\\' => some '\\'
  | '/' => some '/'
  | 'b' => some '\x08'
  | 'f' => some '\x0c'
  | 'n' => some '\n'
  | 'r' => some '\r'
  | 't' => some '\t'
  | _ => none

/-- Four hexadecimal digits that do not end the text. -/
def readFourHex : List Char → Option (Nat × List Char)
  | a :: b :: c :: d :: next :: rest =>
    (Text.hexNumber? [a, b, c, d]).map fun number => (number, next :: rest)
  | _ => none

/-- Is the code unit the first half of a surrogate pair? -/
def isHighSurrogate (unit : Nat) : Bool := 0xD800 ≤ unit && unit ≤ 0xDBFF

/-- Is the code unit the second half of a surrogate pair? -/
def isLowSurrogate (unit : Nat) : Bool := 0xDC00 ≤ unit && unit ≤ 0xDFFF

/-- The character of a code unit; a half of a pair alone is U+FFFD. -/
def charOfUnit (unit : Nat) : Char :=
  if isHighSurrogate unit || isLowSurrogate unit then '\uFFFD' else Char.ofNat unit

/-- The character that a surrogate pair spells. -/
def charOfPair (high low : Nat) : Char :=
  Char.ofNat (0x10000 + (high - 0xD800) * 0x400 + (low - 0xDC00))

/-- The second half of a pair, if it follows as an escape. -/
def readLowHalf : List Char → Option (Nat × List Char)
  | '\\' :: 'u' :: rest =>
    match readFourHex rest with
    | some (unit, rest) => if isLowSurrogate unit then some (unit, rest) else none
    | none => none
  | _ => none

/-- The character of a numeric escape whose digits come next. -/
def readUnicodeEscape (text : List Char) : Option (Char × List Char) :=
  match readFourHex text with
  | none => none
  | some (unit, rest) =>
    if isHighSurrogate unit then
      match readLowHalf rest with
      | some (low, rest) => some (charOfPair unit low, rest)
      | none => some (charOfUnit unit, rest)
    else some (charOfUnit unit, rest)

/-- The characters of a string up to its closing quote; `opening` is the text from the opening quote
on. The first argument bounds the number of characters. -/
def readStringBody (opening : List Char) : Nat → List Char → Except Obstacle (List Char × List Char)
  | 0, _ => .error (.fault ⟨.unterminatedString, opening⟩)
  | fuel + 1, text =>
    match text with
    | [] => .error (.fault ⟨.unterminatedString, opening⟩)
    | '"' :: rest => .ok ([], rest)
    | '\\' :: [] => .error (.fault ⟨.unterminatedString, opening⟩)
    | '\\' :: 'u' :: digits =>
      match readUnicodeEscape digits with
      | none => .error (.fault ⟨.unicodeEscape, 'u' :: digits⟩)
      | some (c, rest) => do
        let (chars, rest) ← readStringBody opening fuel rest
        return (c :: chars, rest)
    | '\\' :: letter :: rest =>
      match simpleEscape? letter with
      | none => .error (.fault ⟨.escape, text⟩)
      | some c => do
        let (chars, rest) ← readStringBody opening fuel rest
        return (c :: chars, rest)
    | c :: rest =>
      if c.toNat < 0x20 then .error (.fault ⟨.controlCharacter, text⟩)
      else do
        let (chars, rest) ← readStringBody opening fuel rest
        return (c :: chars, rest)

/-- A string from after its opening quote on. -/
def readString (afterQuote : List Char) : Except Obstacle (String × List Char) := do
  let (chars, rest) ← readStringBody ('"' :: afterQuote) (afterQuote.length + 1) afterQuote
  return (String.ofList chars, rest)

/-! ## Words -/

/-- The rest of the text after a word that stands at its front. -/
def afterWord? : List Char → List Char → Option (List Char)
  | [], text => some text
  | w :: word, c :: text => if w = c then afterWord? word text else none
  | _ :: _, [] => none

/-- The words that are values by themselves. -/
def words : List (String × Value) :=
  [("null", .null), ("true", .bool true), ("false", .bool false), ("NaN", .real .nan),
   ("Infinity", .real (.infinite false)), ("-Infinity", .real (.infinite true))]

/-- The word at the front of the text, if it is one of the value words. -/
def readWord (text : List Char) : Option (Value × List Char) :=
  words.findSome? fun word => (afterWord? word.1.toList text).map fun rest => (word.2, rest)

/-- A value that is neither a string nor a collection. -/
def readScalar (text : List Char) : Except Obstacle (Value × List Char) :=
  match readWord text, readSigned text with
  | some found, _ => .ok found
  | none, some (value, rest) => if isLong value then .error .longInteger else .ok (value, rest)
  | none, none => .error (.fault ⟨.value, text⟩)

/-! ## Values -/

mutual

/-- The value at the front of the text. The first argument bounds the number of steps. -/
def readValue : Nat → List Char → Except Obstacle (Value × List Char)
  | 0, text => .error (.fault ⟨.value, text⟩)
  | fuel + 1, text =>
    match text with
    | '"' :: rest => do
      let (s, rest) ← readString rest
      return (.string s, rest)
    | '[' :: rest =>
      match skipSpace rest with
      | ']' :: rest => .ok (.array [], rest)
      | rest => do
        let (items, rest) ← readItems fuel rest
        return (.array items, rest)
    | '\x7b' :: rest =>
      match skipSpace rest with
      | '\x7d' :: rest => .ok (.object [], rest)
      | rest => do
        let (members, rest) ← readMembers fuel rest
        return (.object (distinctMembers members), rest)
    | text => readScalar text

/-- One item and the ones after it, to the closing bracket. -/
def readItems : Nat → List Char → Except Obstacle (List Value × List Char)
  | 0, text => .error (.fault ⟨.value, text⟩)
  | fuel + 1, text => do
    let (item, rest) ← readValue fuel text
    match skipSpace rest with
    | ']' :: rest => return ([item], rest)
    | ',' :: rest =>
      let (items, rest) ← readItems fuel (skipSpace rest)
      return (item :: items, rest)
    | rest => .error (.fault ⟨.comma, rest⟩)

/-- One member and the ones after it, to the closing brace, as they are written. -/
def readMembers : Nat → List Char → Except Obstacle (List Member × List Char)
  | 0, text => .error (.fault ⟨.propertyName, text⟩)
  | fuel + 1, text =>
    match text with
    | '"' :: rest => do
      let (name, rest) ← readString rest
      match skipSpace rest with
      | ':' :: rest =>
        let (value, rest) ← readValue fuel (skipSpace rest)
        match skipSpace rest with
        | '\x7d' :: rest => return ([(name, value)], rest)
        | ',' :: rest =>
          let (members, rest) ← readMembers fuel (skipSpace rest)
          return ((name, value) :: members, rest)
        | rest => .error (.fault ⟨.comma, rest⟩)
      | rest => .error (.fault ⟨.colon, rest⟩)
    | text => .error (.fault ⟨.propertyName, text⟩)

end

/-- The value of a whole text. -/
def parseChars (text : List Char) : Except Obstacle Value :=
  match text with
  | '\uFEFF' :: _ => .error (.fault ⟨.byteOrderMark, text⟩)
  | _ => do
    let (value, rest) ← readValue (2 * text.length + 2) (skipSpace text)
    match skipSpace rest with
    | [] => return value
    | rest => .error (.fault ⟨.extraData, rest⟩)

/-- Why a text has no value. -/
inductive ParseFault where
  | illFormed (message : String)
  /-- Reading breaks off at an integer with too many digits. -/
  | longInteger
deriving DecidableEq, Repr

/-- What is said about the obstacle in a text. -/
def Obstacle.toParseFault (text : List Char) : Obstacle → ParseFault
  | fault found => .illFormed (found.message text)
  | longInteger => .longInteger

/-- The value of a JSON text. -/
def parse (text : String) : Except ParseFault Value :=
  (parseChars text.toList).mapError (Obstacle.toParseFault text.toList)

end SchemaSemver.Json
