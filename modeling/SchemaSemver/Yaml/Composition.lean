/-
SchemaSemver.Yaml.Composition — from tokens to the graph of a document.

A text holds one document or none. Anchors must differ, and a reference must come after its anchor.
Of several faults the first one counts: what is wrong behind the tokens of a text matters only when
they run out.
-/
import SchemaSemver.Yaml.Graph
import SchemaSemver.Yaml.Layout

namespace SchemaSemver.Yaml

/-! ## State -/

/-- What is left of the text, the tag handles of the document, and the nodes that were made. -/
structure Composing where
  tokens : List Token
  /-- What is wrong behind the tokens. -/
  fault : Option Fault
  handles : List (String × String)
  nodes : Nodes
  anchors : List (String × NodeId)

/-- A step of composing. -/
abbrev Composer (α : Type) := StateT Composing (Except Fault) α

namespace Composer

/-- The text breaks a rule. -/
def refuse {α : Type} : Composer α := fun _ => reject

/-- The token in front; there is none at the end of the text. -/
def peek? : Composer (Option Token) := do
  let state ← get
  match state.tokens, state.fault with
  | token :: _, _ => return some token
  | [], none => return none
  | [], some fault => throw fault

/-- Is the token in front one of these? -/
def isAtAny (tokens : List Token) : Composer Bool := return (← peek?).any tokens.contains

/-- Leaves the token in front behind. -/
def drop : Composer Unit := modify fun state => { state with tokens := state.tokens.tail }

/-- Leaves the token in front behind if it is the given one. -/
def dropIf (token : Token) : Composer Bool := do
  let found ← isAtAny [token]
  if found then drop
  return found

/-! ## Nodes -/

/-- Makes a node; an anchor becomes its name. -/
def make (anchor : Option String) (node : Node) : Composer NodeId := do
  let state ← get
  let id := state.nodes.size
  let anchors ←
    match anchor with
    | none => pure state.anchors
    | some name =>
      if (state.anchors.lookup name).isSome then refuse else pure ((name, id) :: state.anchors)
  set { state with nodes := state.nodes.push node, anchors }
  return id

/-- Fills a node that was made before its content was known. -/
def fill (id : NodeId) (content : Content) : Composer Unit :=
  modify fun state =>
    { state with nodes := state.nodes.modify id fun node => { node with content } }

/-- A node that is omitted. -/
def makeOmitted : Composer NodeId := make none .omitted

/-- The node that bears an anchor. -/
def named (name : String) : Composer NodeId := do
  match (← get).anchors.lookup name with
  | some id => return id
  | none => refuse

/-! ## Anchors and tags -/

/-- What may stand in front of a node. -/
structure Properties where
  anchor : Option String
  tag : Option String

/-- The name of a tag in the document. -/
def expand (tag : WrittenTag) : Composer String := do
  match tag.handle with
  | none => return tag.suffix
  | some handle =>
    match (← get).handles.lookup handle with
    | some expansion => return expansion ++ tag.suffix
    | none => refuse

/-- The anchor in front, if there is one. -/
def anchor? : Composer (Option String) := do
  match ← peek? with
  | some (.anchor name) =>
    drop
    return some name
  | _ => return none

/-- The tag in front, if there is one. -/
def tag? : Composer (Option WrittenTag) := do
  match ← peek? with
  | some (.tag tag) =>
    drop
    return some tag
  | _ => return none

/-- Anchor and tag in front of a node, in any order. -/
def properties : Composer Properties := do
  let early ← anchor?
  let tag ← tag?
  let late ← if early.isNone && tag.isSome then anchor? else pure none
  let name ← match tag with
    | some tag => some <$> expand tag
    | none => pure none
  return ⟨early <|> late, name⟩

/-- The tag of a scalar. -/
def scalarTag (written : Option String) (isPlain : Bool) (text : List Char) : Tag :=
  let asPlain := if text = ['\n'] then Tag.string else plainTag (withoutFinalBreak text)
  match written with
  | none => if isPlain then asPlain else .string
  | some name => if name = "!" then asPlain else .ofName name

/-- The tag of a collection. -/
def collectionTag (written : Option String) (standard : Tag) : Tag :=
  match written with
  | none => standard
  | some name => if name = "!" then standard else .ofName name

/-! ## Grammar -/

/-- Where a node stands. -/
inductive Place where
  /-- Inside a flow collection; no block can stand here. -/
  | flow
  /-- Anywhere a block can stand. -/
  | block
  /-- A key or value of a block mapping, where also a sequence may stand that is not indented. -/
  | entry
deriving DecidableEq, Repr

mutual

/-- Reads a node. In this and all that follows the first argument bounds the depth of reading. -/
def readNode : Nat → Place → Composer NodeId
  | 0, _ => refuse
  | fuel + 1, place => do
    if let some (.reference name) ← peek? then
      drop
      return ← named name
    let ⟨anchor, tag⟩ ← properties
    let sequence (read : Composer (List NodeId)) : Composer NodeId := do
      let id ← make anchor ⟨collectionTag tag .sequence, .sequence []⟩
      fill id (.sequence (← read))
      return id
    let mapping (read : Composer (List (NodeId × NodeId))) : Composer NodeId := do
      let id ← make anchor ⟨collectionTag tag .mapping, .mapping []⟩
      fill id (.mapping (← read))
      return id
    match ← peek?, place with
    | some (.scalar isPlain text), _ =>
      drop
      make anchor ⟨scalarTag tag isPlain text.chars, .scalar text⟩
    | some .sequenceOpen, _ =>
      drop
      sequence (readFlowItems fuel true)
    | some .mappingOpen, _ =>
      drop
      mapping (readFlowEntries fuel true)
    | some .blockEntry, .entry => sequence (readUnindentedItems fuel)
    | some .blockSequence, .block | some .blockSequence, .entry =>
      drop
      sequence (readBlockItems fuel)
    | some .blockMapping, .block | some .blockMapping, .entry =>
      drop
      mapping (readBlockEntries fuel)
    | _, _ =>
      if anchor.isNone && tag.isNone then refuse
      else make anchor ⟨scalarTag tag true [], .scalar (.ofChars [])⟩

/-- Reads a node, or an omitted one if a given token follows. -/
def readUnless : Nat → List Token → Place → Composer NodeId
  | 0, _, _ => refuse
  | fuel + 1, ends, place => do
    if ← isAtAny ends then makeOmitted else readNode fuel place

/-- Reads the items of a block sequence. -/
def readBlockItems : Nat → Composer (List NodeId)
  | 0 => refuse
  | fuel + 1 => do
    if ← dropIf .blockEnd then return []
    if ← dropIf .blockEntry then
      let item ← readUnless fuel [.blockEntry, .blockEnd] .block
      return item :: (← readBlockItems fuel)
    else refuse

/-- Reads the items of a sequence that is not indented. -/
def readUnindentedItems : Nat → Composer (List NodeId)
  | 0 => refuse
  | fuel + 1 => do
    if ← dropIf .blockEntry then
      let item ← readUnless fuel [.blockEntry, .key, .value, .blockEnd] .block
      return item :: (← readUnindentedItems fuel)
    else return []

/-- Reads the value of an entry, which is omitted if there is no token for it. -/
def readValue : Nat → List Token → Place → Composer NodeId
  | 0, _, _ => refuse
  | fuel + 1, ends, place => do
    if ← dropIf .value then readUnless fuel ends place else makeOmitted

/-- Reads the entries of a block mapping. -/
def readBlockEntries : Nat → Composer (List (NodeId × NodeId))
  | 0 => refuse
  | fuel + 1 => do
    if ← dropIf .blockEnd then return []
    let ends : List Token := [.key, .value, .blockEnd]
    if ← dropIf .key then
      let key ← readUnless fuel ends .entry
      let value ← readValue fuel ends .entry
      return (key, value) :: (← readBlockEntries fuel)
    else refuse

/-- Reads the items of a flow sequence; an item with a key is a mapping of one entry. -/
def readFlowItems : Nat → Bool → Composer (List NodeId)
  | 0, _ => refuse
  | fuel + 1, isFirst => do
    if ← dropIf .sequenceClose then return []
    if !isFirst then
      if !(← dropIf .flowEntry) then refuse
      if ← dropIf .sequenceClose then return []
    if ← dropIf .key then
      let key ← readUnless fuel [.value, .flowEntry, .sequenceClose] .flow
      let value ← readValue fuel [.flowEntry, .sequenceClose] .flow
      let item ← make none ⟨.mapping, .mapping [(key, value)]⟩
      return item :: (← readFlowItems fuel false)
    else
      let item ← readNode fuel .flow
      return item :: (← readFlowItems fuel false)

/-- Reads the entries of a flow mapping; a node without the sign of a key is a key without value. -/
def readFlowEntries : Nat → Bool → Composer (List (NodeId × NodeId))
  | 0, _ => refuse
  | fuel + 1, isFirst => do
    if ← dropIf .mappingClose then return []
    if !isFirst then
      if !(← dropIf .flowEntry) then refuse
      if ← dropIf .mappingClose then return []
    if ← dropIf .key then
      let key ← readUnless fuel [.value, .flowEntry, .mappingClose] .flow
      let value ← readValue fuel [.flowEntry, .mappingClose] .flow
      return (key, value) :: (← readFlowEntries fuel false)
    else
      let key ← readNode fuel .flow
      let value ← makeOmitted
      return (key, value) :: (← readFlowEntries fuel false)

end

/-! ## Documents -/

/-- The handles that every document has. -/
def standardHandles : List (String × String) := [("!", "!"), ("!!", tagBase)]

/-- Reads the directives in front of a document: at most one version, which must be a version 1,
and different handles. -/
def directiveHandles (hasVersion : Bool) (handles : List (String × String)) :
    List Token → Result (List (String × String))
  | .directive (.version major _) :: rest => do
    require (!hasVersion && major == 1)
    directiveHandles true handles rest
  | .directive (.tag handle expansion) :: rest => do
    require (handles.lookup handle).isNone
    directiveHandles hasVersion ((handle, expansion) :: handles) rest
  | .directive .other :: rest => directiveHandles hasVersion handles rest
  | _ => .ok (handles ++ standardHandles)

/-- Is the token a directive? -/
def isDirective : Token → Bool
  | .directive _ => true
  | _ => false

/-- Reads the directives in front of a document. -/
def readDirectives : Composer Unit := do
  let state ← get
  let handles ← directiveHandles false [] state.tokens
  set { state with handles, tokens := state.tokens.dropWhile isDirective }

/-- Reads the content of a document behind its mark. -/
def readContent (fuel : Nat) : Composer NodeId := do
  match ← peek? with
  | none => makeOmitted
  | some token =>
    if isDirective token || token == .documentStart || token == .documentEnd then makeOmitted
    else readNode fuel .block

/-- Reads a document. -/
def readDocument (fuel : Nat) : Composer NodeId := do
  if (← peek?).any fun token => isDirective token || token == .documentStart then
    readDirectives
    if ← dropIf .documentStart then readContent fuel else refuse
  else readNode fuel .block

/-- Reads what may follow a document: marks of its end. What else follows begins another document,
and its directives are looked at before it is refused. -/
def readEnd : Composer Unit := do
  modify fun state => { state with tokens := state.tokens.dropWhile (· == .documentEnd) }
  if (← peek?).isSome then
    readDirectives
    let _ ← peek?
    refuse

/-- Reads a text, which may be empty. -/
def readText (fuel : Nat) : Composer (Option NodeId) := do
  if (← peek?).isNone then return none
  let root ← readDocument fuel
  readEnd
  return some root

end Composer

/-- The document of a text, none if the text is empty. -/
def compose (text : List Char) : Result (Option Graph) := do
  let tokens := tokensOf text
  let start : Composing := ⟨tokens.all, tokens.fault, Composer.standardHandles, #[], []⟩
  let (root, state) ← (Composer.readText (2 * tokens.all.length + 2)).run start
  return root.map fun root => ⟨state.nodes, root⟩

end SchemaSemver.Yaml
