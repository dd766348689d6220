/-
SchemaSemver.Yaml.Scalar.Block — scalars that are blocks of lines.

A literal block keeps its line breaks; a folded one joins lines that begin with a word. The header
may say how far the block is indented and what becomes of the line breaks at its end.
-/
import SchemaSemver.Yaml.Scalar.Plain

namespace SchemaSemver.Yaml

/-! ## Headers -/

/-- What becomes of the line breaks at the end of a block. -/
inductive Chomping where
  /-- All are dropped. -/
  | strip
  /-- One is kept. -/
  | clip
  /-- All are kept. -/
  | keep
deriving DecidableEq, Repr

/-- What the header of a block says. -/
structure BlockHeader where
  chomping : Chomping
  increment : Option Nat
deriving DecidableEq, Repr

/-- The sign for the end of the block, if it is in front. -/
def chompingSign? : List Char → Option Chomping
  | '+' :: _ => some .keep
  | '-' :: _ => some .strip
  | _ => none

/-- The digit for the indentation, if it is in front; zero is none. -/
def incrementDigit? : List Char → Result (Option Nat)
  | c :: _ =>
    if c = '0' then reject
    else if c.isDigit then .ok (some (c.toNat - '0'.toNat))
    else .ok none
  | [] => .ok none

/-- Reads sign and digit, in any order, and the rest of the line. -/
def readHeader (cursor : Cursor) : Result (BlockHeader × Cursor) := do
  let early := chompingSign? cursor.rest
  let cursor := if early.isSome then cursor.next else cursor
  let increment ← incrementDigit? cursor.rest
  let cursor := if increment.isSome then cursor.next else cursor
  let late := if early.isNone && increment.isSome then chompingSign? cursor.rest else none
  let cursor := if late.isSome then cursor.next else cursor
  require (atSpace cursor.rest)
  return (⟨(early <|> late).getD .clip, increment⟩, ← cursor.skipRestOfLine)

/-! ## Lines -/

/-- The line breaks of the empty lines at a place, the width of the widest indentation among them
and the first line that is not empty, and the place where that line's text begins. The first
argument bounds the number of lines. -/
def leadingLines : Nat → Cursor → List Char × Nat × Cursor
  | 0, cursor => ([], 0, cursor)
  | fuel + 1, cursor =>
    let after := cursor.skipSpaces
    let width := if after.offset = cursor.offset then 0 else after.column
    match after.lineBreak? with
    | none => ([], width, after)
    | some (c, next) =>
      let (more, widest, last) := leadingLines fuel next
      (c :: more, max width widest, last)

/-- The line breaks of the lines at a place that hold nothing right of a column, and the place in
the line after them. The first argument bounds the number of lines. -/
def emptyLines : Nat → Nat → Cursor → List Char × Cursor
  | 0, _, cursor => ([], cursor)
  | fuel + 1, column, cursor =>
    let after := cursor.skipIndent column
    match after.lineBreak? with
    | none => ([], after)
    | some (c, next) =>
      let (more, last) := emptyLines fuel column next
      (c :: more, last)

/-- Lines of a block: their text, the line break at its end, and the breaks of empty lines that
follow. -/
structure BlockLines where
  text : List Char
  lastBreak : List Char
  trailing : List Char
  after : Cursor

/-- Is here a line of a block that is indented to a column? -/
def isContentLine (indent : Nat) (cursor : Cursor) : Bool :=
  cursor.column == indent && !cursor.rest.isEmpty

/-- Does the line at a place begin with a word? -/
def beginsWord (cursor : Cursor) : Bool := !cursor.rest.head?.any isSpaceOrTab

/-- What stands between two lines of a block that a line break and empty lines separate. -/
def blockJoint (isFolded : Bool) (lineBreak empty : List Char) : List Char :=
  if isFolded && lineBreak == ['\n'] then (if empty.isEmpty then [' '] else []) else lineBreak

/-- Reads the lines of a block; `empty` are the breaks of the empty lines in front of the place.
The first argument bounds the number of lines. -/
def readBlockLines : Nat → Bool → Nat → List Char → Cursor → BlockLines
  | 0, _, _, empty, cursor => ⟨[], [], empty, cursor⟩
  | fuel + 1, isFolded, indent, empty, cursor =>
    if !isContentLine indent cursor then ⟨[], [], empty, cursor⟩
    else
      let (line, lineEnd) := cursor.span (!isBreak ·)
      let (lineBreak, next) : List Char × Cursor :=
        match lineEnd.lineBreak? with
        | some (c, next) => ([c], next)
        | none => ([], lineEnd)
      let (following, next) := emptyLines (next.rest.length + 1) indent next
      if isContentLine indent next then
        let isFoldedHere := isFolded && beginsWord cursor && beginsWord next
        let joint := blockJoint isFoldedHere lineBreak following
        let rest := readBlockLines fuel isFolded indent following next
        { rest with text := empty ++ line ++ joint ++ rest.text }
      else ⟨empty ++ line, lineBreak, following, next⟩

/-! ## Scalars -/

/-- The end of a block with the given chomping. -/
def Chomping.ending (chomping : Chomping) (lines : BlockLines) : List Char :=
  match chomping with
  | .strip => []
  | .clip => lines.lastBreak
  | .keep => lines.lastBreak ++ lines.trailing

/-- Reads the block whose indicator is at a place; `depth` is the least column of the lines around
it. -/
def readBlock (isFolded : Bool) (depth : Nat) (cursor : Cursor) : Result ScalarRead := do
  let (header, start) ← readHeader cursor.next
  let least := max 1 depth
  let fuel := start.rest.length + 1
  let lines :=
    match header.increment with
    | some increment =>
      let indent := least + increment - 1
      let (empty, first) := emptyLines fuel indent start
      readBlockLines fuel isFolded indent empty first
    | none =>
      let (empty, widest, first) := leadingLines fuel start
      readBlockLines fuel isFolded (max least widest) empty first
  return ⟨lines.text ++ header.chomping.ending lines, lines.after⟩

end SchemaSemver.Yaml
