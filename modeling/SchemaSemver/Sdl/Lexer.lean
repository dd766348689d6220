/-
SchemaSemver.Sdl.Lexer — from the characters of a schema text to its tokens.

White space, commas, line breaks, byte order marks and comments separate tokens and are dropped.
The first fault ends the list of lexemes; what stands before it is kept, because a reader of tokens
meets the fault only when it gets there.
-/
import SchemaSemver.Sdl.Token
import SchemaSemver.Text.Hexadecimal

namespace SchemaSemver.Sdl

/-! ## Characters -/

/-- Can the character begin a name? -/
def isNameStart (c : Char) : Bool := c.isAlpha || c == '_'

/-- Can the character stand inside a name? -/
def isNameContinue (c : Char) : Bool := c.isAlphanum || c == '_'

/-- Does the character separate tokens? -/
def isIgnored (c : Char) : Bool :=
  c == ' ' || c == '\t' || c == ',' || c == '\n' || c == '\r' || c == '\uFEFF'

/-- Does the character end a line? -/
def isLineEnd (c : Char) : Bool := c == '\n' || c == '\r'

/-- The number in hexadecimal capitals, padded to at least four digits. -/
def codePointText (n : Nat) : String :=
  String.ofList ((Text.hexadecimal 4 n).map Char.toUpper)

/-- The character at the front of the text as messages show it. -/
def shownChar : List Char → String
  | [] => "<EOF>"
  | c :: _ =>
    if ' ' ≤ c ∧ c ≤ '~' then String.ofList ['\'', c, '\''] else "U+" ++ codePointText c.toNat

/-! ## Scanned parts

A scanner works on the text from some offset on and answers with the value that it found and the
number of characters that it covers. -/

/-- A part of a text that was read. -/
structure Scanned where
  kind : TokenKind
  value : List Char
  width : Nat
deriving DecidableEq, Repr

/-- What a scanner answers; the offset of a fault counts from the scanner's start. -/
abbrev Scan := Except SyntaxFault Scanned

/-! ## Numbers -/

/-- The width of the digits at the front of the text, of which there must be one; `before`
characters of the number stand in front of them. -/
def digitsWidth (before : Nat) (text : List Char) : Except SyntaxFault Nat :=
  match text.takeWhile Char.isDigit with
  | [] => .error ⟨.digitExpected (shownChar text), before⟩
  | digits => .ok digits.length

/-- The width of the digits before the point. -/
def wholeWidth (before : Nat) (text : List Char) : Except SyntaxFault Nat :=
  match text with
  | '0' :: rest =>
    match rest with
    | c :: _ =>
      if c.isDigit then .error ⟨.digitAfterZero (shownChar rest), before + 1⟩ else .ok 1
    | [] => .ok 1
  | _ => digitsWidth before text

/-- The width of a point and the digits after it, or nothing. -/
def fractionWidth (before : Nat) (text : List Char) : Except SyntaxFault Nat :=
  match text with
  | '.' :: rest => (digitsWidth (before + 1) rest).map (· + 1)
  | _ => .ok 0

/-- The width of an exponent, or nothing. -/
def exponentWidth (before : Nat) (text : List Char) : Except SyntaxFault Nat :=
  match text with
  | c :: rest =>
    if c = 'e' ∨ c = 'E' then
      match rest with
      | sign :: digits =>
        if sign = '+' ∨ sign = '-' then (digitsWidth (before + 2) digits).map (· + 2)
        else (digitsWidth (before + 1) rest).map (· + 1)
      | [] => digitsWidth (before + 1) []
    else .ok 0
  | [] => .ok 0

/-- A number; neither a point nor the beginning of a name may follow it. -/
def scanNumber (text : List Char) : Scan := do
  let sign := match text with
    | '-' :: _ => 1
    | _ => 0
  let whole ← wholeWidth sign (text.drop sign)
  let afterWhole := sign + whole
  let fraction ← fractionWidth afterWhole (text.drop afterWhole)
  let afterFraction := afterWhole + fraction
  let exponent ← exponentWidth afterFraction (text.drop afterFraction)
  let width := afterFraction + exponent
  let rest := text.drop width
  let touches := match rest with
    | c :: _ => c == '.' || isNameStart c
    | [] => false
  if touches then .error ⟨.digitExpected (shownChar rest), width⟩
  else
    .ok ⟨if fraction + exponent = 0 then .integer else .float, text.take width, width⟩

/-! ## Strings -/

/-- The character that a letter after a backslash stands for. -/
def escapedChar? : Char → Option Char
  | '"' => some '"'
  | '\\' => some '\\'
  | '/' => some '/'
  | 'b' => some '\x08'
  | 'f' => some '\x0c'
  | 'n' => some '\n'
  | 'r' => some '\r'
  | 't' => some '\t'
  | _ => none

/-- Is the number the code of a character, and not of a surrogate? -/
def isScalarValue (n : Nat) : Bool := n ≤ 0xD7FF || (0xE000 ≤ n && n ≤ 0x10FFFF)

/-- The number that the four hexadecimal digits at the front of the text spell. -/
def fourHex? : List Char → Option Nat
  | a :: b :: c :: d :: _ => Text.hexNumber? [a, b, c, d]
  | _ => none

/-- The character of an escape with four digits, and the width of the escape: six, or twelve when
two escapes spell a surrogate pair. `text` begins with the backslash. -/
def fixedEscape (text : List Char) : Except SyntaxProblem (Char × Nat) :=
  let fault : Except SyntaxProblem (Char × Nat) :=
    .error (.unicodeEscape (String.ofList (text.take 6)))
  match fourHex? (text.drop 2) with
  | none => fault
  | some code =>
    if isScalarValue code then .ok (Char.ofNat code, 6)
    else if code ≤ 0xDBFF ∧ (text.drop 6).take 2 = ['\\', 'u'] then
      match fourHex? (text.drop 8) with
      | some low =>
        if 0xDC00 ≤ low ∧ low ≤ 0xDFFF then
          .ok (Char.ofNat (0x10000 + (code - 0xD800) * 0x400 + (low - 0xDC00)), 12)
        else fault
      | none => fault
    else fault

/-- The digits of an escape in braces: `point` is the number so far, `width` the characters read,
backslash and `u` and brace included. At most twelve characters belong to the escape. -/
def bracedEscape (text : List Char) : Nat → Nat → List Char → Except SyntaxProblem (Char × Nat)
  | _, width, [] => .error (.unicodeEscape (String.ofList (text.take width)))
  | point, width, c :: rest =>
    let fault (width : Nat) : Except SyntaxProblem (Char × Nat) :=
      .error (.unicodeEscape (String.ofList (text.take width)))
    if 12 ≤ width then fault width
    else if c = '\x7d' then
      if width < 4 ∨ !isScalarValue point then fault (width + 1)
      else .ok (Char.ofNat point, width + 1)
    else
      match Text.hexValue? c with
      | some digit => bracedEscape text (point * 16 + digit) (width + 1) rest
      | none => fault (width + 1)

/-- The character of the escape that begins with the backslash at the front of the text, and the
width of the escape. -/
def readEscape (text : List Char) : Except SyntaxProblem (Char × Nat) :=
  match text with
  | _ :: 'u' :: '\x7b' :: rest => bracedEscape text 0 3 rest
  | _ :: 'u' :: _ => fixedEscape text
  | _ :: letter :: _ =>
    match escapedChar? letter with
    | some c => .ok (c, 2)
    | none => .error (.characterEscape (String.ofList (text.take 2)))
  | _ => .error (.characterEscape (String.ofList (text.take 2)))

/-- The characters of a string from `width` characters after its opening quote's offset on, in
reverse. The first argument bounds the number of steps. -/
def scanStringFrom : Nat → List Char → Nat → List Char → Scan
  | 0, _, width, _ => .error ⟨.unterminatedString, width⟩
  | fuel + 1, read, width, text =>
    match text with
    | [] => .error ⟨.unterminatedString, width⟩
    | '"' :: _ => .ok ⟨.string, read.reverse, width + 1⟩
    | '\\' :: _ =>
      match readEscape text with
      | .ok (c, size) => scanStringFrom fuel (c :: read) (width + size) (text.drop size)
      | .error problem => .error ⟨problem, width⟩
    | c :: rest =>
      if isLineEnd c then .error ⟨.unterminatedString, width⟩
      else scanStringFrom fuel (c :: read) (width + 1) rest

/-! ## Block strings -/

/-- The characters of a block string up to its closing quotes, in reverse, and the width covered.
A backslash before three quotes makes them part of the string. -/
def scanBlockFrom : Nat → List Char → Nat → List Char → Except SyntaxFault (List Char × Nat)
  | 0, _, width, _ => .error ⟨.unterminatedString, width⟩
  | fuel + 1, read, width, text =>
    match text with
    | [] => .error ⟨.unterminatedString, width⟩
    | '"' :: '"' :: '"' :: _ => .ok (read.reverse, width + 3)
    | '\\' :: '"' :: '"' :: '"' :: rest =>
      scanBlockFrom fuel ('"' :: '"' :: '"' :: read) (width + 4) rest
    | c :: rest => scanBlockFrom fuel (c :: read) (width + 1) rest

/-- The lines of a text; `current` is the line being read, in reverse. -/
def linesFrom (current : List Char) : List Char → List (List Char)
  | [] => [current.reverse]
  | '\r' :: '\n' :: rest => current.reverse :: linesFrom [] rest
  | c :: rest =>
    if isLineEnd c then current.reverse :: linesFrom [] rest else linesFrom (c :: current) rest

/-- The width of the indentation of a line. -/
def indentation (line : List Char) : Nat :=
  (line.takeWhile fun c => c == ' ' || c == '\t').length

/-- Does the line hold nothing but indentation? -/
def isBlankLine (line : List Char) : Bool := indentation line == line.length

/-- The least indentation among lines that hold something, if there is such a line. -/
def commonIndentation (lines : List (List Char)) : Option Nat :=
  ((lines.filter (!isBlankLine ·)).map indentation).min?

/-- The lines of a block string without their common indentation, in which the first line has no
part, and without blank lines at both ends. -/
def dedent (lines : List (List Char)) : List (List Char) :=
  let tail := lines.drop 1
  let shifted := match commonIndentation tail with
    | some width => lines.take 1 ++ tail.map (List.drop width)
    | none => lines
  ((shifted.dropWhile isBlankLine).reverse.dropWhile isBlankLine).reverse

/-- The lines with a line feed between each two. -/
def joinLines : List (List Char) → List Char
  | [] => []
  | [line] => line
  | line :: rest => line ++ '\n' :: joinLines rest

/-- A block string; `text` begins with its three opening quotes. -/
def scanBlock (text : List Char) : Scan := do
  let (raw, width) ← scanBlockFrom (text.length + 1) [] 3 (text.drop 3)
  return ⟨.blockString, joinLines (dedent (linesFrom [] raw)), width⟩

/-! ## Tokens -/

/-- What begins with a point: the spread mark, or a fault. -/
def scanDots (text : List Char) : Scan :=
  match text with
  | '.' :: '.' :: '.' :: _ => .ok ⟨.punctuator .spread, [], 3⟩
  | '.' :: '.' :: _ => .error ⟨.twoDots, 0⟩
  | '.' :: rest =>
    match rest.takeWhile Char.isDigit with
    | [] => .error ⟨.character (shownChar text), 0⟩
    | digits => .error ⟨.leadingPoint (String.ofList digits), 0⟩
  | _ => .error ⟨.character (shownChar text), 0⟩

/-- The token at the front of a text that begins with a character of some token. -/
def scanToken (text : List Char) : Scan :=
  match text with
  | [] => .ok ⟨.endOfText, [], 0⟩
  | c :: rest =>
    match Punctuator.ofChar? c with
    | some mark => .ok ⟨.punctuator mark, [], 1⟩
    | none =>
      if c.isDigit ∨ c = '-' then scanNumber text
      else if isNameStart c then
        let name := c :: rest.takeWhile isNameContinue
        .ok ⟨.name, name, name.length⟩
      else if c = '.' then scanDots text
      else if c = '"' then
        match rest with
        | '"' :: '"' :: _ => scanBlock text
        | _ => scanStringFrom (text.length + 1) [] 1 rest
      else if c = '\'' then .error ⟨.singleQuote, 0⟩
      else .error ⟨.character (shownChar text), 0⟩

/-- The number of characters in front of the next token. -/
def ignoredWidth : Bool → List Char → Nat
  | _, [] => 0
  | true, c :: rest => 1 + ignoredWidth (!isLineEnd c) rest
  | false, c :: rest =>
    if isIgnored c then 1 + ignoredWidth false rest
    else if c = '#' then 1 + ignoredWidth true rest
    else 0

/-- What the lexer hands on: a token, or the fault that ends the text for a reader. -/
inductive Lexeme where
  | token (token : Token)
  | fault (fault : SyntaxFault)
deriving DecidableEq, Repr

/-- The lexemes from an offset on. The first argument bounds their number. -/
def lexemesFrom : Nat → Nat → List Char → List Lexeme
  | 0, _, _ => []
  | fuel + 1, offset, text =>
    let ignored := ignoredWidth false text
    let offset := offset + ignored
    let text := text.drop ignored
    match scanToken text with
    | .error fault => [.fault ⟨fault.problem, offset + fault.offset⟩]
    | .ok scanned =>
      let token : Token := ⟨scanned.kind, String.ofList scanned.value, offset⟩
      if scanned.kind = .endOfText then [.token token]
      else .token token :: lexemesFrom fuel (offset + scanned.width) (text.drop scanned.width)

/-- The lexemes of a text: its tokens up to the end of the text, or up to the first fault. -/
def lexemes (text : List Char) : List Lexeme := lexemesFrom (text.length + 1) 0 text

end SchemaSemver.Sdl
