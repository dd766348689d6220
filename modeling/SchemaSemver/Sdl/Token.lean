/-
SchemaSemver.Sdl.Token — tokens of the schema definition language, and its syntax faults.

A token is a punctuator, a name, a number, a string or the end of the text. Every token and every
fault knows its offset, the number of characters in front of it; line and column are worked out
from the text when a fault is reported.
-/

namespace SchemaSemver.Sdl

/-! ## Tokens -/

/-- The punctuators. -/
inductive Punctuator where
  | bang
  | dollar
  | ampersand
  | leftParen
  | rightParen
  | spread
  | colon
  | equals
  | atSign
  | leftBracket
  | rightBracket
  | leftBrace
  | pipe
  | rightBrace
deriving DecidableEq, Repr

/-- A punctuator as it is written. -/
def Punctuator.text : Punctuator → String
  | bang => "!"
  | dollar => "$"
  | ampersand => "&"
  | leftParen => "("
  | rightParen => ")"
  | spread => "..."
  | colon => ":"
  | equals => "="
  | atSign => "@"
  | leftBracket => "["
  | rightBracket => "]"
  | leftBrace => "\x7b"
  | pipe => "|"
  | rightBrace => "\x7d"

/-- The punctuator of one character. -/
def Punctuator.ofChar? : Char → Option Punctuator
  | '!' => some bang
  | '$' => some dollar
  | '&' => some ampersand
  | '(' => some leftParen
  | ')' => some rightParen
  | ':' => some colon
  | '=' => some equals
  | '@' => some atSign
  | '[' => some leftBracket
  | ']' => some rightBracket
  | '\x7b' => some leftBrace
  | '|' => some pipe
  | '\x7d' => some rightBrace
  | _ => none

/-- What a token is. -/
inductive TokenKind where
  | punctuator (mark : Punctuator)
  | name
  | integer
  | float
  | string
  | blockString
  | endOfText
deriving DecidableEq, Repr

/-- The kind as it is named in messages. -/
def TokenKind.text : TokenKind → String
  | punctuator mark => "'" ++ mark.text ++ "'"
  | name => "Name"
  | integer => "Int"
  | float => "Float"
  | string => "String"
  | blockString => "BlockString"
  | endOfText => "<EOF>"

/-- Does a token of the kind carry a value? -/
def TokenKind.hasValue : TokenKind → Bool
  | punctuator _ => false
  | endOfText => false
  | _ => true

/-- A token: names, numbers and strings have a value. -/
structure Token where
  kind : TokenKind
  value : String
  offset : Nat
deriving DecidableEq, Repr

/-- The token as it is described in messages. -/
def Token.text (token : Token) : String :=
  if token.kind.hasValue then token.kind.text ++ " '" ++ token.value ++ "'" else token.kind.text

/-! ## Faults -/

/-- What is wrong with the syntax of a text. -/
inductive SyntaxProblem where
  | unexpected (found : String)
  | expected (wanted found : String)
  | variableInConstant (name : String)
  | reservedEnumValue (found : String)
  | misplacedDescription
  | describedShorthand
  | character (shown : String)
  | singleQuote
  | twoDots
  | leadingPoint (digits : String)
  | digitAfterZero (shown : String)
  | digitExpected (shown : String)
  | unterminatedString
  | characterEscape (sequence : String)
  | unicodeEscape (sequence : String)
deriving DecidableEq, Repr

/-- What is said about a problem. -/
def SyntaxProblem.message : SyntaxProblem → String
  | unexpected found => "Unexpected " ++ found ++ "."
  | expected wanted found => "Expected " ++ wanted ++ ", found " ++ found ++ "."
  | variableInConstant name => "Unexpected variable '$" ++ name ++ "' in constant value."
  | reservedEnumValue found =>
    found ++ " is reserved and cannot be used for an enum value."
  | misplacedDescription =>
    "Unexpected description, only GraphQL definitions support descriptions."
  | describedShorthand =>
    "Unexpected description, descriptions are not supported on shorthand queries."
  | character shown => "Unexpected character: " ++ shown ++ "."
  | singleQuote =>
    "Unexpected single quote character ('), did you mean to use a double quote (\")?"
  | twoDots => "Unexpected '..', did you mean '...'?"
  | leadingPoint digits =>
    "Invalid number, expected digit before '.', did you mean '0." ++ digits ++ "'?"
  | digitAfterZero shown => "Invalid number, unexpected digit after 0: " ++ shown ++ "."
  | digitExpected shown => "Invalid number, expected digit but got: " ++ shown ++ "."
  | unterminatedString => "Unterminated string."
  | characterEscape sequence => "Invalid character escape sequence: '" ++ sequence ++ "'."
  | unicodeEscape sequence => "Invalid Unicode escape sequence: '" ++ sequence ++ "'."

/-- A syntax problem and its place. -/
structure SyntaxFault where
  problem : SyntaxProblem
  offset : Nat
deriving DecidableEq, Repr

/-- A place in a text, both parts counted from one. -/
structure Position where
  line : Nat
  column : Nat
deriving DecidableEq, Repr

/-- The place of an offset: line breaks are a line feed, a carriage return, or both in that order;
`lineStart` is the offset at which the current line begins. -/
def positionFrom (offset : Nat) : Nat → Nat → Nat → List Char → Position
  | line, lineStart, current, '\r' :: '\n' :: rest =>
    if current < offset then positionFrom offset (line + 1) (current + 2) (current + 2) rest
    else ⟨line, offset + 1 - lineStart⟩
  | line, lineStart, current, c :: rest =>
    if current < offset then
      if c = '\n' ∨ c = '\r' then
        positionFrom offset (line + 1) (current + 1) (current + 1) rest
      else positionFrom offset line lineStart (current + 1) rest
    else ⟨line, offset + 1 - lineStart⟩
  | line, lineStart, _, [] => ⟨line, offset + 1 - lineStart⟩

/-- The place of an offset in a text. -/
def positionOf (text : List Char) (offset : Nat) : Position := positionFrom offset 1 0 0 text

end SchemaSemver.Sdl
