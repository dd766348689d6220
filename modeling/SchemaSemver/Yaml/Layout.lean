/-
SchemaSemver.Yaml.Layout — from a text to its tokens.

Besides what is written, the layout of a text gives tokens: a line that is indented deeper opens a
block, one that is indented less closes the blocks that are deeper, and a part of a line turns out
to be a key when a colon follows it. Such a part is remembered as a possible key; a key is on one
line and at most 1024 characters long, and where a line of a block mapping begins one is required.
-/
import SchemaSemver.Yaml.Annotation
import SchemaSemver.Yaml.Scalar.Block
import SchemaSemver.Yaml.Scalar.Quoted

namespace SchemaSemver.Yaml

/-! ## State -/

/-- The tokens of a text, as far as it can be read. -/
structure Tokens where
  /-- The tokens in order. If a fault follows, these are the ones that do not depend on what comes
  behind: in front of none of them a key can begin. -/
  all : List Token
  /-- What is wrong behind them; nothing is if the text ends there. -/
  fault : Option Fault
deriving DecidableEq, Repr

/-- A place where a key may have begun. -/
structure PossibleKey where
  /-- The number of tokens in front of it. -/
  position : Nat
  isRequired : Bool
  offset : Nat
  line : Nat
  column : Nat

/-- What was read of a text. -/
structure Layout where
  cursor : Cursor
  /-- The tokens, the last one first. -/
  tokens : List Token
  count : Nat
  /-- The least column of the lines of the innermost block, zero outside of all blocks. -/
  depth : Nat
  /-- The same for the blocks around it. -/
  outerDepths : List Nat
  /-- May a key begin here? -/
  keyAllowed : Bool
  /-- The possible key of the innermost flow collection, or of the block outside of all. -/
  possibleKey : Option PossibleKey
  /-- The possible keys around it, one for each flow collection that is open. -/
  outerKeys : List (Option PossibleKey)

namespace Layout

/-- The beginning of a text; a byte order mark there is skipped. -/
def start (text : List Char) : Layout :=
  let cursor := Cursor.start text
  let cursor := if text.head? == some '\uFEFF' then cursor.next else cursor
  ⟨cursor, [], 0, 0, [], true, none, []⟩

/-- Is the place inside a flow collection? -/
def inFlow (layout : Layout) : Bool := !layout.outerKeys.isEmpty

/-- Adds a token. -/
def push (token : Token) (layout : Layout) : Layout :=
  { layout with tokens := token :: layout.tokens, count := layout.count + 1 }

/-- Adds a token that ends at a place. -/
def pushTo (token : Token) (after : Cursor) (layout : Layout) : Layout :=
  { layout.push token with cursor := after }

/-! ## Blocks -/

/-- Opens a block in the given column, unless the innermost one is at least as deep. -/
def openBlock (token : Token) (column : Nat) (layout : Layout) : Layout :=
  if layout.depth ≤ column then
    { layout.push token with
      depth := column + 1, outerDepths := layout.depth :: layout.outerDepths }
  else layout

/-- Closes every block that is deeper than the given depth. -/
def closeDeeper (limit : Nat) (layout : Layout) : List Nat → Layout
  | [] => layout
  | outer :: rest =>
    if layout.depth ≤ limit then layout
    else closeDeeper limit { layout.push .blockEnd with depth := outer, outerDepths := rest } rest

/-- Closes every block that is deeper than the given depth; inside a flow collection none is. -/
def closeBlocks (limit : Nat) (layout : Layout) : Layout :=
  if layout.inFlow then layout else layout.closeDeeper limit layout.outerDepths

/-! ## Possible keys -/

/-- Can the colon of the key not come any more? -/
def isStale (cursor : Cursor) (key : PossibleKey) : Bool :=
  key.line != cursor.line || 1024 < cursor.offset - key.offset

/-- The possible key, unless it is stale; a required key may not be. -/
def fresh (cursor : Cursor) (possible : Option PossibleKey) : Result (Option PossibleKey) := do
  match possible with
  | some key =>
    if isStale cursor key then
      require (!key.isRequired)
      return none
    else return some key
  | none => return none

/-- Forgets all stale keys. -/
def forgetStale (layout : Layout) : Result Layout := do
  let possibleKey ← fresh layout.cursor layout.possibleKey
  let outerKeys ← layout.outerKeys.mapM (fresh layout.cursor)
  return { layout with possibleKey, outerKeys }

/-- Forgets the innermost possible key, which may not be required. -/
def forgetKey (layout : Layout) : Result Layout := do
  require (!layout.possibleKey.any PossibleKey.isRequired)
  return { layout with possibleKey := none }

/-- Remembers that a key may begin here. -/
def rememberKey (layout : Layout) : Result Layout := do
  if !layout.keyAllowed then return layout
  let layout ← layout.forgetKey
  let cursor := layout.cursor
  let isRequired := !layout.inFlow && layout.depth == cursor.column + 1
  return { layout with
    possibleKey := some ⟨layout.count, isRequired, cursor.offset, cursor.line, cursor.column⟩ }

/-- Puts a key token in front of the possible key, and the opening of a block mapping if the key is
deeper than the innermost block. -/
def confirmKey (key : PossibleKey) (layout : Layout) : Layout :=
  let later := layout.tokens.take (layout.count - key.position)
  let earlier : Layout :=
    { layout with
      tokens := layout.tokens.drop (layout.count - key.position), count := key.position,
      possibleKey := none }
  let opened := if layout.inFlow then earlier else earlier.openBlock .blockMapping key.column
  let marked := opened.push .key
  { marked with tokens := later ++ marked.tokens, count := marked.count + later.length }

/-! ## Between tokens -/

/-- The place of the next token, and whether a line ended before it. The first argument bounds the
number of lines. -/
def nextToken : Nat → Cursor → Cursor × Bool
  | 0, cursor => (cursor, false)
  | fuel + 1, cursor =>
    let cursor := cursor.skipSpaces.skipComment
    match cursor.lineBreak? with
    | none => (cursor, false)
    | some (_, next) => ((nextToken fuel next).1, true)

/-- Goes to the next token; what is between tells which blocks and keys ended. -/
def toNextToken (layout : Layout) : Result Layout := do
  let (cursor, brokeLine) := nextToken (layout.cursor.rest.length + 1) layout.cursor
  let keyAllowed := layout.keyAllowed || (brokeLine && !layout.inFlow)
  let layout ← { layout with cursor, keyAllowed }.forgetStale
  return layout.closeBlocks (cursor.column + 1)

/-! ## Tokens -/

/-- A line between documents closes everything. -/
def closeAll (layout : Layout) : Result Layout := do
  let layout ← (layout.closeBlocks 0).forgetKey
  return { layout with keyAllowed := false }

/-- A directive. -/
def readDirectiveLine (layout : Layout) : Result Layout := do
  let layout ← layout.closeAll
  let (directive, after) ← readDirective layout.cursor
  return layout.pushTo (.directive directive) after

/-- The mark at the beginning or the end of a document. -/
def readDocumentMark (token : Token) (layout : Layout) : Result Layout := do
  let layout ← layout.closeAll
  return layout.pushTo token (layout.cursor.skip 3)

/-- The opening bracket of a flow collection. -/
def openFlow (token : Token) (layout : Layout) : Result Layout := do
  let layout ← layout.rememberKey
  let layout := layout.pushTo token layout.cursor.next
  return { layout with
    keyAllowed := true, possibleKey := none, outerKeys := layout.possibleKey :: layout.outerKeys }

/-- The closing bracket of a flow collection. -/
def closeFlow (token : Token) (layout : Layout) : Result Layout := do
  let layout ← layout.forgetKey
  match layout.outerKeys with
  | [] => reject
  | possibleKey :: outerKeys =>
    let layout := layout.pushTo token layout.cursor.next
    return { layout with keyAllowed := false, possibleKey, outerKeys }

/-- The comma of a flow collection. -/
def readFlowEntry (layout : Layout) : Result Layout := do
  let layout ← layout.forgetKey
  return { layout.pushTo .flowEntry layout.cursor.next with keyAllowed := true }

/-- Opens a block for the entry or key at the place, which must be allowed there; in a flow
collection there are no blocks. -/
def openBlockHere (token : Token) (layout : Layout) : Result Layout := do
  if layout.inFlow then return layout
  require layout.keyAllowed
  return layout.openBlock token layout.cursor.column

/-- The hyphen of a block sequence. -/
def readBlockEntry (layout : Layout) : Result Layout := do
  let layout ← (← layout.openBlockHere .blockSequence).forgetKey
  return { layout.pushTo .blockEntry layout.cursor.next with keyAllowed := true }

/-- The question mark of a key. -/
def readKeyMark (layout : Layout) : Result Layout := do
  let layout ← (← layout.openBlockHere .blockMapping).forgetKey
  return { layout.pushTo .key layout.cursor.next with keyAllowed := !layout.inFlow }

/-- The colon of a value. -/
def readValueMark (layout : Layout) : Result Layout := do
  match layout.possibleKey with
  | some key =>
    let layout := layout.confirmKey key
    return { layout.pushTo .value layout.cursor.next with keyAllowed := false }
  | none =>
    let layout ← layout.openBlockHere .blockMapping
    return { layout.pushTo .value layout.cursor.next with keyAllowed := !layout.inFlow }

/-- A part of a line that may be a key, or the beginning of one. -/
def readKeyPart (read : Cursor → Result (Token × Cursor)) (layout : Layout) : Result Layout := do
  let layout ← layout.rememberKey
  let (token, after) ← read layout.cursor
  return { layout.pushTo token after with keyAllowed := false }

/-- A plain scalar. -/
def readPlainToken (layout : Layout) : Result Layout := do
  let layout ← layout.rememberKey
  let read := readPlain layout.depth layout.inFlow layout.cursor
  return { layout.pushTo (.scalar true (.ofChars read.text)) read.after with
    keyAllowed := read.brokeLine }

/-- A block scalar. -/
def readBlockToken (isFolded : Bool) (layout : Layout) : Result Layout := do
  let layout ← layout.forgetKey
  let read ← readBlock isFolded layout.depth layout.cursor
  return { layout.pushTo (.scalar false (.ofChars read.text)) read.after with keyAllowed := true }

/-- A scalar in quotes. -/
def readQuotedToken (quote : Char) : Layout → Result Layout :=
  readKeyPart fun cursor => do
    let read ← readQuoted quote cursor
    return (.scalar false ⟨read.points⟩, read.after)

/-- The token at the place. -/
def readToken (layout : Layout) : Result Layout :=
  let cursor := layout.cursor
  let inFlow := layout.inFlow
  match cursor.rest with
  | [] => .ok layout
  | c :: rest =>
    if c = '%' ∧ cursor.column = 0 then layout.readDirectiveLine
    else if cursor.column = 0 ∧ atDocumentMark cursor.rest then
      layout.readDocumentMark (if c = '-' then .documentStart else .documentEnd)
    else if c = '[' then layout.openFlow .sequenceOpen
    else if c = '\x7b' then layout.openFlow .mappingOpen
    else if c = ']' then layout.closeFlow .sequenceClose
    else if c = '\x7d' then layout.closeFlow .mappingClose
    else if c = ',' then layout.readFlowEntry
    else if c = '-' ∧ atBlank rest then layout.readBlockEntry
    else if c = '?' ∧ (inFlow ∨ atBlank rest) then layout.readKeyMark
    else if c = ':' ∧ (inFlow ∨ atBlank rest) then layout.readValueMark
    else if c = '*' then
      layout.readKeyPart fun cursor => do
        let (name, after) ← readAnchorName cursor
        return (.reference name, after)
    else if c = '&' then
      layout.readKeyPart fun cursor => do
        let (name, after) ← readAnchorName cursor
        return (.anchor name, after)
    else if c = '!' then
      layout.readKeyPart fun cursor => do
        let (tag, after) ← readWrittenTag cursor
        return (.tag tag, after)
    else if c = '|' ∧ !inFlow then layout.readBlockToken false
    else if c = '>' ∧ !inFlow then layout.readBlockToken true
    else if c = '\'' ∨ c = '"' then layout.readQuotedToken c
    else if startsPlain inFlow cursor.rest then layout.readPlainToken
    else reject

/-! ## Texts -/

/-- The number of tokens in front of which no key can begin any more. -/
def settledCount (layout : Layout) : Nat :=
  let keys := (layout.possibleKey :: layout.outerKeys).filterMap id
  (keys.filter (!isStale layout.cursor ·)).foldl (fun count key => min count key.position)
    layout.count

/-- The tokens of a text that was read to its end. -/
def finished (layout : Layout) : Tokens := ⟨layout.tokens.reverse, none⟩

/-- The tokens of a text that cannot be read any further. -/
def endedBy (fault : Fault) (layout : Layout) : Tokens :=
  ⟨layout.tokens.reverse.take layout.settledCount, some fault⟩

/-- Reads tokens to the end of the text or to a fault. The first argument bounds their number. -/
def readTokens : Nat → Layout → Tokens
  | 0, layout => layout.finished
  | fuel + 1, layout =>
    match layout.toNextToken with
    | .error fault => layout.endedBy fault
    | .ok next =>
      if next.cursor.rest.isEmpty then
        match next.closeAll with
        | .error fault => layout.endedBy fault
        | .ok last => last.finished
      else
        match next.readToken with
        | .error fault => layout.endedBy fault
        | .ok after => readTokens fuel after

end Layout

/-- The tokens of a text. -/
def tokensOf (text : List Char) : Tokens :=
  if text.all isAllowed then (Layout.start (withLineFeeds text)).readTokens (text.length + 1)
  else ⟨[], some .illFormed⟩

end SchemaSemver.Yaml
