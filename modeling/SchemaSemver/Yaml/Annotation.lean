/-
SchemaSemver.Yaml.Annotation — anchors, references, tags and directives.
-/
import SchemaSemver.Text.DecimalDigit
import SchemaSemver.Text.Hexadecimal
import SchemaSemver.Text.Utf8
import SchemaSemver.Yaml.Cursor

namespace SchemaSemver.Yaml

/-! ## Names -/

/-- The word at a place, which may not be empty, and the place after it. -/
def readWord (cursor : Cursor) : Result (String × Cursor) := do
  let (word, after) := cursor.span isWordChar
  require (!word.isEmpty)
  return (String.ofList word, after)

/-- Characters that may follow the name of an anchor or reference without a blank. -/
def nameEnds : List Char := ['?', ':', ',', ']', '\x7d', '%', '@', '\x60']

/-- The name whose indicator is at a place. -/
def readAnchorName (cursor : Cursor) : Result (String × Cursor) := do
  let (name, after) ← readWord cursor.next
  require (atBlank after.rest || after.rest.head?.any nameEnds.contains)
  return (name, after)

/-! ## Tags -/

/-- The bytes of the escapes in front of a text. -/
def escapedBytes : List Char → Result (List UInt8)
  | '%' :: a :: b :: rest =>
    match Text.hexNumber? [a, b] with
    | some byte => (escapedBytes rest).map (UInt8.ofNat byte :: ·)
    | none => reject
  | '%' :: _ => reject
  | _ => .ok []

/-- The characters of a tag at a place. The first argument bounds the number of steps. -/
def readTagChars : Nat → Cursor → Result (List Char × Cursor)
  | 0, cursor => .ok ([], cursor)
  | fuel + 1, cursor =>
    match cursor.rest with
    | [] => .ok ([], cursor)
    | c :: _ =>
      if c = '%' then do
        let bytes ← escapedBytes cursor.rest
        match Text.Utf8.decode bytes with
        | .error _ => reject
        | .ok chars =>
          let (rest, after) ← readTagChars fuel (cursor.skip (3 * bytes.length))
          return (chars ++ rest, after)
      else if isTagChar c then do
        let (rest, after) ← readTagChars fuel cursor.next
        return (c :: rest, after)
      else .ok ([], cursor)

/-- The text of a tag at a place, at least one character of the document. -/
def readTagText (cursor : Cursor) : Result (String × Cursor) := do
  let (chars, after) ← readTagChars cursor.rest.length cursor
  require (cursor.offset < after.offset)
  return (String.ofList chars, after)

/-- The handle that begins at a place: `!`, `!!` or `!word!`. -/
def readHandle (cursor : Cursor) : Result (String × Cursor) := do
  require (cursor.rest.head? == some '!')
  if cursor.next.rest.head? == some ' ' then return ("!", cursor.next)
  let (word, after) := cursor.next.span isWordChar
  require (after.rest.head? == some '!')
  return (String.ofList ('!' :: (word ++ ['!'])), after.next)

/-- Does another `!` follow before the next space? -/
def hasHandle (text : List Char) : Bool :=
  (text.takeWhile fun c => !(isBreak c || c == ' ')).contains '!'

/-- Reads the tag whose `!` is at a place. -/
def readWrittenTag (cursor : Cursor) : Result (WrittenTag × Cursor) := do
  let inner := cursor.next
  let (tag, after) ←
    if inner.rest.head? == some '<' then do
      let (suffix, after) ← readTagText inner.next
      require (after.rest.head? == some '>')
      pure (⟨none, suffix⟩, after.next)
    else if atBlank inner.rest then pure (WrittenTag.plain, inner)
    else do
      let (handle, after) ← if hasHandle inner.rest then readHandle cursor else pure ("!", inner)
      let (suffix, after) ← readTagText after
      pure (⟨some handle, suffix⟩, after)
  require (atSpace after.rest)
  return (tag, after)

/-! ## Directives -/

/-- The number at a place, at least one digit and not too many. -/
def readNumber (cursor : Cursor) : Result (Nat × Cursor) := do
  let (digits, after) := cursor.span Char.isDigit
  require (!digits.isEmpty)
  if Text.digitLimit < digits.length then throw .longVersion
  return (digits.foldl (fun n c => 10 * n + (c.toNat - '0'.toNat)) 0, after)

/-- The version of a `%YAML` line. -/
def readVersion (cursor : Cursor) : Result (Directive × Cursor) := do
  let (major, after) ← readNumber cursor.skipSpaces
  require (after.rest.head? == some '.')
  let (minor, after) ← readNumber after.next
  require (atSpace after.rest)
  return (.version major minor, after)

/-- The handle of a `%TAG` line and what it stands for. -/
def readTagDirective (cursor : Cursor) : Result (Directive × Cursor) := do
  let (handle, after) ← readHandle cursor.skipSpaces
  require (after.rest.head? == some ' ')
  let (expansion, after) ← readTagText after.skipSpaces
  require (atSpace after.rest)
  return (.tag handle expansion, after)

/-- Reads the directive whose `%` is at a place, up to the end of its line. -/
def readDirective (cursor : Cursor) : Result (Directive × Cursor) := do
  let (name, after) ← readWord cursor.next
  require (atSpace after.rest)
  let (directive, after) ←
    if name = "YAML" then readVersion after
    else if name = "TAG" then readTagDirective after
    else pure (.other, after.skipLine)
  return (directive, ← after.skipRestOfLine)

end SchemaSemver.Yaml
