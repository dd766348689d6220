/-
SchemaSemver.Yaml.Scalar.Quoted — scalars in quotes.

Between single quotes only the quote itself is special: it is written twice. Between double quotes a
backslash begins an escape. In both, line breaks are folded and no document mark may begin a line.
-/
import SchemaSemver.Text.Hexadecimal
import SchemaSemver.Yaml.Scalar.Plain

namespace SchemaSemver.Yaml

/-! ## Escapes -/

/-- The character that a letter stands for after a backslash. -/
def escapedChar? : Char → Option Char
  | '0' => some '\x00'
  | 'a' => some '\x07'
  | 'b' => some '\x08'
  | 't' => some '\t'
  | '\t' => some '\t'
  | 'n' => some '\n'
  | 'v' => some '\x0b'
  | 'f' => some '\x0c'
  | 'r' => some '\r'
  | 'e' => some '\x1b'
  | ' ' => some ' '
  | '"' => some '"'
  | '\\' => some '\\'
  | '/' => some '/'
  | 'N' => some '\x85'
  | '_' => some '\xa0'
  | 'L' => some '\u2028'
  | 'P' => some '\u2029'
  | _ => none

/-- The number of hexadecimal digits after a letter that announces a code. -/
def codeWidth? : Char → Option Nat
  | 'x' => some 2
  | 'u' => some 4
  | 'U' => some 8
  | _ => none

/-- The code point of a code; two halves of a surrogate pair stay apart. -/
def pointOfCode (code : Nat) : Result CodePoint :=
  match CodePoint.ofCode? code with
  | some point => .ok point
  | none => .error (.noCharacter code)

/-- The code point that a code of the given width spells at a place. -/
def readCode (width : Nat) (cursor : Cursor) : Result (CodePoint × Cursor) := do
  let digits := cursor.rest.take width
  require (digits.length == width)
  match Text.hexNumber? digits with
  | some code => return (← pointOfCode code, cursor.skip width)
  | none => reject

/-! ## Gaps -/

/-- Characters that were read, as code points. -/
def asPoints (found : List Char × Cursor) : List CodePoint × Cursor :=
  (found.1.map .char, found.2)

/-- The line breaks among the blanks at the beginning of a line. The first argument bounds the
number of lines. -/
def quotedBreaks : Nat → Cursor → Result (List Char × Cursor)
  | 0, cursor => .ok ([], cursor)
  | fuel + 1, cursor => do
    require (!atDocumentMark cursor.rest)
    let after := cursor.skipWhile isSpaceOrTab
    match after.lineBreak? with
    | none => return ([], after)
    | some (c, next) =>
      let (more, last) ← quotedBreaks fuel next
      return (c :: more, last)

/-- The blanks at a place: in one line they stand for themselves. -/
def quotedGap (cursor : Cursor) : Result (List Char × Cursor) :=
  let (blanks, after) := cursor.span isSpaceOrTab
  match after.lineBreak? with
  | none => .ok (blanks, after)
  | some (first, next) => do
    let (more, last) ← quotedBreaks (next.rest.length + 1) next
    return (foldedBreaks first more, last)

/-- What the backslash in front of a place stands for, together with the character there. -/
def readEscape (cursor : Cursor) : Result (List CodePoint × Cursor) :=
  match cursor.rest with
  | [] => reject
  | c :: _ =>
    match escapedChar? c, codeWidth? c, cursor.lineBreak? with
    | some escaped, _, _ => .ok ([.char escaped], cursor.next)
    | none, some width, _ => do
      let (escaped, after) ← readCode width cursor.next
      return ([escaped], after)
    | none, none, some (_, next) => (quotedBreaks (next.rest.length + 1) next).map asPoints
    | none, none, none => reject

/-! ## Scalars -/

/-- A scalar in quotes that was read, and the place after it. -/
structure QuotedRead where
  points : List CodePoint
  after : Cursor
deriving DecidableEq, Repr

/-- What stands at a place between quotes: some code points, or nothing at the closing quote. -/
def quotedPart? (quote : Char) (cursor : Cursor) : Result (Option (List CodePoint × Cursor)) :=
  match cursor.rest with
  | [] => reject
  | c :: rest =>
    if isSpaceOrTab c || isBreak c then (quotedGap cursor).map fun gap => some (asPoints gap)
    else if c = quote then
      if quote = '\'' ∧ rest.head? = some quote then .ok (some ([.char quote], cursor.skip 2))
      else .ok none
    else if c = '\\' ∧ quote = '"' then (readEscape cursor.next).map some
    else .ok (some ([.char c], cursor.next))

/-- Reads up to the closing quote and past it. The first argument bounds the number of parts. -/
def readQuotedParts : Nat → Char → Cursor → Result QuotedRead
  | 0, _, _ => reject
  | fuel + 1, quote, cursor => do
    match ← quotedPart? quote cursor with
    | none => return ⟨[], cursor.next⟩
    | some (part, after) =>
      let rest ← readQuotedParts fuel quote after
      return ⟨part ++ rest.points, rest.after⟩

/-- Reads the scalar whose opening quote is at a place. -/
def readQuoted (quote : Char) (cursor : Cursor) : Result QuotedRead :=
  readQuotedParts (cursor.rest.length + 1) quote cursor.next

end SchemaSemver.Yaml
