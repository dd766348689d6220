/-
SchemaSemver.Yaml.Scalar.Plain — scalars without quotes.

A plain scalar goes on over lines as long as they are indented enough. Between two of its lines a
single line break stands for a space, and further ones stand for themselves.
-/
import SchemaSemver.Yaml.Cursor

namespace SchemaSemver.Yaml

/-- A scalar that was read, and the place after it. -/
structure ScalarRead where
  text : List Char
  after : Cursor
deriving DecidableEq, Repr

/-- What line breaks between two lines of a scalar stand for. -/
def foldedBreaks (first : Char) (more : List Char) : List Char :=
  if first ≠ '\n' then first :: more else if more.isEmpty then [' '] else more

/-! ## The parts of a line -/

/-- Characters that end a plain scalar inside a flow collection. -/
def flowStops : List Char := [',', '?', '[', ']', '\x7b', '\x7d']

/-- Is here a separator, or a character that separates after a colon in a flow collection? -/
def atKeyEnd (inFlow : Bool) (text : List Char) : Bool :=
  atBlank text || (inFlow && text.head?.any fun c => c != '?' && flowStops.contains c)

/-- Does a plain scalar stop here? -/
def plainStops (inFlow : Bool) : List Char → Bool
  | [] => true
  | c :: rest =>
    isBreak c || isSpaceOrTab c || (c == ':' && atKeyEnd inFlow rest)
      || (inFlow && flowStops.contains c)

/-- The characters of a plain scalar up to a separator. -/
def plainRun (inFlow : Bool) : List Char → List Char
  | [] => []
  | c :: rest => if plainStops inFlow (c :: rest) then [] else c :: plainRun inFlow rest

/-- Characters that cannot begin a plain scalar, or only before another one that goes on. -/
def indicators : List Char :=
  ['-', '?', ':', ',', '[', ']', '\x7b', '\x7d', '#', '&', '*', '!', '|', '>', '\'', '"', '%', '@',
   '\x60']

/-- Can a plain scalar begin here? -/
def startsPlain (inFlow : Bool) : List Char → Bool
  | [] => false
  | c :: rest =>
    if indicators.contains c then
      !atBlank rest && (c == '-' || (!inFlow && (c == '?' || c == ':')))
    else !(isBreak c || isSpaceOrTab c)

/-! ## Gaps -/

/-- What stands between two parts of a plain scalar. -/
structure PlainGap where
  /-- What the gap stands for; nothing if the scalar ends here. -/
  text : List Char
  after : Cursor
  breaksLine : Bool

/-- The line breaks among the spaces in front, none if a document mark follows one of them. The
first argument bounds the number of lines. -/
def plainBreaks : Nat → Cursor → Option (List Char) × Cursor
  | 0, cursor => (some [], cursor)
  | fuel + 1, cursor =>
    let cursor := cursor.skipSpaces
    match cursor.lineBreak? with
    | none => (some [], cursor)
    | some (c, after) =>
      if atDocumentMark after.rest then (none, after)
      else
        let (more, last) := plainBreaks fuel after
        (more.map (c :: ·), last)

/-- The gap at a place. -/
def plainGap (cursor : Cursor) : PlainGap :=
  let (spaces, after) := cursor.span (· == ' ')
  match after.lineBreak? with
  | none => ⟨spaces, after, false⟩
  | some (first, after) =>
    if atDocumentMark after.rest then ⟨[], after, true⟩
    else
      match plainBreaks after.rest.length after with
      | (some more, last) => ⟨foldedBreaks first more, last, true⟩
      | (none, last) => ⟨[], last, true⟩

/-! ## Scalars -/

/-- A plain scalar that was read; `brokeLine` says whether a line ended after its last part. -/
structure PlainRead extends ScalarRead where
  brokeLine : Bool

/-- Reads the parts of a plain scalar whose lines begin at least in column `indent`; `gap` stands
between what was read and the place. The first argument bounds the number of parts. -/
def readPlainParts : Nat → Nat → Bool → PlainGap → PlainRead
  | 0, _, _, gap => ⟨⟨[], gap.after⟩, gap.breaksLine⟩
  | fuel + 1, indent, inFlow, gap =>
    let cursor := gap.after
    let run := plainRun inFlow cursor.rest
    if cursor.rest.head? = some '#' ∨ run.isEmpty then ⟨⟨[], cursor⟩, gap.breaksLine⟩
    else
      let next := plainGap (cursor.skip run.length)
      let rest : PlainRead :=
        if next.text.isEmpty ∨ (!inFlow ∧ next.after.column < indent) then
          ⟨⟨[], next.after⟩, next.breaksLine⟩
        else readPlainParts fuel indent inFlow next
      ⟨⟨gap.text ++ run ++ rest.text, rest.after⟩, rest.brokeLine⟩

/-- Reads the plain scalar at a place. -/
def readPlain (indent : Nat) (inFlow : Bool) (cursor : Cursor) : PlainRead :=
  readPlainParts (cursor.rest.length + 1) indent inFlow ⟨[], cursor, false⟩

end SchemaSemver.Yaml
