/-
SchemaSemver.Yaml.Graph — what a document says, before its scalars are read.

A document is a graph of nodes: a reference leads to the node that bears its anchor, so nodes can be
shared, and a collection can hold itself. Every node has a tag, which says how it is to be read.
-/
import SchemaSemver.Yaml.Moment
import SchemaSemver.Yaml.Number

namespace SchemaSemver.Yaml

/-! ## Tags -/

/-- How a node is to be read. -/
inductive Tag where
  | null
  | bool
  | integer
  | real
  | binary
  | moment
  | string
  | sequence
  | orderedMapping
  | pairs
  | mapping
  | set
  /-- A key that stands for the entries of other mappings. -/
  | merge
  /-- A key for the scalar that a mapping may stand for. -/
  | scalarValue
  /-- Nothing is known of any other tag. -/
  | unknown
deriving DecidableEq, Repr

/-- What the names of all known tags begin with. -/
def tagBase : String := "tag:yaml.org,2002:"

/-- The known tags by name. -/
def knownTags : List (String × Tag) :=
  [("null", .null), ("bool", .bool), ("int", .integer), ("float", .real), ("binary", .binary),
   ("timestamp", .moment), ("str", .string), ("seq", .sequence), ("omap", .orderedMapping),
   ("pairs", .pairs), ("map", .mapping), ("set", .set), ("merge", .merge), ("value", .scalarValue)]

/-- The tag of a name. -/
def Tag.ofName (name : String) : Tag :=
  ((knownTags.find? fun entry => tagBase ++ entry.1 == name).map Prod.snd).getD .unknown

/-- The words for truth, falsehood and nothing. -/
def truthWords : List (String × Bool) :=
  [("yes", true), ("no", false), ("true", true), ("false", false), ("on", true), ("off", false)]

/-- A word in lower case, capitalised, and in capitals. -/
def spellings (word : String) : List String := [word, word.capitalize, word.toUpper]

/-- The tag of a plain scalar that has none. -/
def plainTag (text : List Char) : Tag :=
  let isAny (words : List String) : Bool := words.any fun word => word.toList == text
  if isAny (truthWords.flatMap fun entry => spellings entry.1) then .bool
  else if isAny ("" :: "~" :: spellings "null") then .null
  else if isInteger text then .integer
  else if isReal text then .real
  else if isMoment text then .moment
  else if isAny ["<<"] then .merge
  else if isAny ["="] then .scalarValue
  else if isAny ["!", "&", "*"] then .unknown
  else .string

/-- The text without the line feed that may end it. -/
def withoutFinalBreak (text : List Char) : List Char :=
  match text.reverse with
  | '\n' :: rest => rest.reverse
  | _ => text

/-! ## Nodes -/

/-- The name of a node in its graph. -/
abbrev NodeId := Nat

/-- What a node holds. -/
inductive Content where
  | scalar (text : LooseText)
  | sequence (items : List NodeId)
  | mapping (entries : List (NodeId × NodeId))
deriving DecidableEq, Repr

/-- A node. -/
structure Node where
  tag : Tag
  content : Content
deriving DecidableEq, Repr

/-- What an omitted node stands for. -/
def Node.omitted : Node := ⟨.null, .scalar (.ofChars [])⟩

/-- The number of entries, if the content is a mapping. -/
def Content.entryCount : Content → Nat
  | mapping entries => entries.length
  | _ => 0

/-- Nodes by name. -/
abbrev Nodes := Array Node

/-- The node of a name. -/
def Nodes.node (nodes : Nodes) (id : NodeId) : Node := (nodes[id]?).getD .omitted

/-- A document. -/
structure Graph where
  nodes : Nodes
  root : NodeId

end SchemaSemver.Yaml
