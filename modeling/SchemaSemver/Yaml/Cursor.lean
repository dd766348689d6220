/-
SchemaSemver.Yaml.Cursor — a place in a text.

YAML cares about lines and columns. A cursor knows its place and the text from there on. Byte order
marks have no width.
-/
import SchemaSemver.Yaml.Token

namespace SchemaSemver.Yaml

/-- A place in a text, with the rest of the text. -/
structure Cursor where
  rest : List Char
  offset : Nat
  line : Nat
  column : Nat
deriving DecidableEq, Repr

namespace Cursor

/-- The beginning of a text. -/
def start (text : List Char) : Cursor := ⟨text, 0, 0, 0⟩

/-- The place after one character. -/
def next (cursor : Cursor) : Cursor :=
  match cursor.rest with
  | [] => cursor
  | c :: rest =>
    if isBreak c then ⟨rest, cursor.offset + 1, cursor.line + 1, 0⟩
    else if c = '\uFEFF' then ⟨rest, cursor.offset + 1, cursor.line, cursor.column⟩
    else ⟨rest, cursor.offset + 1, cursor.line, cursor.column + 1⟩

/-- The place after a number of characters. -/
def skip : Nat → Cursor → Cursor
  | 0, cursor => cursor
  | count + 1, cursor => skip count cursor.next

/-- Moving on moves on in the rest of the text. -/
theorem rest_next (cursor : Cursor) : cursor.next.rest = cursor.rest.tail := by
  unfold next
  split
  · simp_all
  · rename_i h
    simp only [h, List.tail_cons]
    repeat' split
    all_goals rfl

theorem rest_skip (count : Nat) (cursor : Cursor) :
    (cursor.skip count).rest = cursor.rest.drop count := by
  induction count generalizing cursor with
  | zero => rfl
  | succ count ih => rw [skip, ih, rest_next, List.drop_tail]

/-- The characters in front that have a property, and the place after them. -/
def span (p : Char → Bool) (cursor : Cursor) : List Char × Cursor :=
  let found := cursor.rest.takeWhile p
  (found, cursor.skip found.length)

/-- The place after the characters in front that have a property. -/
def skipWhile (p : Char → Bool) (cursor : Cursor) : Cursor := (cursor.span p).2

/-- The place after the spaces in front. -/
def skipSpaces (cursor : Cursor) : Cursor := cursor.skipWhile (· == ' ')

/-- The place after the spaces in front, as long as they lie left of a column. -/
def skipIndent (column : Nat) (cursor : Cursor) : Cursor :=
  let spaces := (cursor.rest.takeWhile (· == ' ')).length
  cursor.skip (min spaces (column - cursor.column))

/-- The place at the end of the line. -/
def skipLine (cursor : Cursor) : Cursor := cursor.skipWhile (!isBreak ·)

/-- The place after a comment, if there is one. -/
def skipComment (cursor : Cursor) : Cursor :=
  if cursor.rest.head? == some '#' then cursor.skipLine else cursor

/-- The line break in front, as a text with it shows it, and the place after it. -/
def lineBreak? (cursor : Cursor) : Option (Char × Cursor) :=
  match cursor.rest with
  | [] => none
  | c :: _ =>
    if isBreak c then some (if c = '\x85' then '\n' else c, cursor.next) else none

/-- The place after a line break, if there is one. -/
def skipBreak (cursor : Cursor) : Cursor :=
  match cursor.lineBreak? with
  | some (_, after) => after
  | none => cursor

/-- The place behind the rest of a line that may hold spaces and a comment only. -/
def skipRestOfLine (cursor : Cursor) : Result Cursor := do
  let cursor := cursor.skipSpaces.skipComment
  require (atLineEnd cursor.rest)
  return cursor.skipBreak

end Cursor

end SchemaSemver.Yaml
