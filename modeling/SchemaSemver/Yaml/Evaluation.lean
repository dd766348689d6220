/-
SchemaSemver.Yaml.Evaluation — from the graph of a document to its value.

A document has a value when each node that can be reached fits its tag: a collection has the shape
its tag asks for, a scalar is spelled as its tag asks for, merge keys stand for mappings, and keys
are scalars. Nodes are looked at level by level from the root, and the first fault counts. A scalar
is read once: what merging changes later does not change its value.

Since a document may hold itself, a value is given down to a depth only.
-/
import SchemaSemver.Yaml.Composition
import SchemaSemver.Yaml.Meaning
import SchemaSemver.Yaml.Merging

namespace SchemaSemver.Yaml

/-! ## State -/

/-- The nodes of a document, and the values of the scalars that were read. -/
structure Evaluating where
  nodes : Nodes
  values : Array (Option Value)

/-- A step of evaluating. -/
abbrev Evaluator (α : Type) := StateT Evaluating (Except Fault) α

namespace Evaluating

/-- Nothing was read of the graph. -/
def start (graph : Graph) : Evaluating := ⟨graph.nodes, Array.replicate graph.nodes.size none⟩

/-- The value of a scalar that was read. -/
def value? (state : Evaluating) (id : NodeId) : Option Value := (state.values[id]?).join

/-- Is the node a collection by its tag? -/
def isCollection (state : Evaluating) (id : NodeId) : Bool :=
  (state.nodes.node id).tag.class == .collection

end Evaluating

/-- The text that a node gives as a scalar: its own, or that of the value which a mapping has under
the key for it. The first argument bounds the number of mappings. -/
def scalarText (nodes : Nodes) : Nat → NodeId → Result LooseText
  | 0, _ => reject
  | fuel + 1, id =>
    match (nodes.node id).content with
    | .scalar text => .ok text
    | .sequence _ => reject
    | .mapping entries =>
      match entries.find? fun entry => (nodes.node entry.1).tag == .scalarValue with
      | some (_, value) => scalarText nodes fuel value
      | none => reject

namespace Evaluator

/-- The text breaks a rule. -/
def refuse {α : Type} : Evaluator α := fun _ => reject

/-! ## Nodes -/

/-- Reads a scalar. A date cannot be given by a mapping. -/
def readScalar (id : NodeId) : Evaluator Unit := do
  let state ← get
  let node := state.nodes.node id
  let text ← scalarText state.nodes (state.nodes.size + 1) id
  if node.tag == .moment && node.content.entryCount != 0 then throw (.unreadable .mappedDate)
  let value ← node.tag.read text
  set { state with values := state.values.setIfInBounds id (some value) }

/-- A node must have a tag by which it can be read, and a scalar is read. -/
def readNode (id : NodeId) : Evaluator Unit := do
  let state ← get
  if (state.value? id).isNone then
    match (state.nodes.node id).tag.class with
    | .scalar => readScalar id
    | .collection => pure ()
    | .none => refuse

/-- Merges a mapping and gives its entries. -/
def merge (id : NodeId) : Evaluator NodeEntries := do
  let state ← get
  let (entries, nodes) ← (mergeEntries id).run state.nodes
  set { state with nodes }
  return entries

/-- Reads an entry of a mapping, whose key must be a scalar. -/
def readEntry (entry : NodeId × NodeId) : Evaluator Unit := do
  readNode entry.1
  if (← get).isCollection entry.1 then refuse
  readNode entry.2

/-- Reads an item that is a mapping of a single entry. -/
def readPair (id : NodeId) : Evaluator (List NodeId) := do
  match ((← get).nodes.node id).content with
  | .mapping [(key, value)] =>
    readNode key
    readNode value
    return [key, value]
  | _ => refuse

/-- Reads the nodes in a collection and gives them. -/
def readCollection (id : NodeId) : Evaluator (List NodeId) := do
  let node := (← get).nodes.node id
  match node.tag, node.content with
  | .sequence, .sequence items =>
    items.forM readNode
    return items
  | .orderedMapping, .sequence items | .pairs, .sequence items =>
    return (← items.mapM readPair).flatten
  | .mapping, .mapping _ | .set, .mapping _ =>
    let entries ← merge id
    entries.forM readEntry
    return entries.map Prod.snd
  | _, _ => refuse

/-! ## Documents -/

/-- Reads the collections of a queue and those in them, none twice. The first argument bounds the
number of collections. -/
def readAll : Nat → List NodeId → List NodeId → Evaluator Unit
  | 0, _, _ => pure ()
  | _, _, [] => pure ()
  | fuel + 1, known, id :: queue => do
    let inside ← readCollection id
    let state ← get
    let new := (inside.filter state.isCollection).eraseDups.filter (!known.contains ·)
    readAll fuel (new ++ known) (queue ++ new)

/-- Reads a document from its root. -/
def readFrom (root : NodeId) : Evaluator Unit := do
  readNode root
  let state ← get
  if state.isCollection root then readAll (state.nodes.size + 1) [root] [root]

end Evaluator

/-! ## Values -/

/-- The value of a node down to a depth, in a document that was read. -/
def Evaluating.valueAt (state : Evaluating) : Nat → NodeId → Value
  | 0, id => (state.value? id).getD .collection
  | depth + 1, id =>
    match state.value? id with
    | some value => value
    | none =>
      let node := state.nodes.node id
      match node.tag, node.content with
      | .mapping, .mapping entries =>
        .mapping (entries.map fun (key, value) =>
          (valueAt state depth key, valueAt state depth value))
      | _, _ => .collection

/-- The value of a text down to a depth; a text without a document has the value null. -/
def read (depth : Nat) (text : List Char) : Result Value := do
  match ← compose text with
  | none => return .null
  | some graph =>
    let (_, state) ← (Evaluator.readFrom graph.root).run (.start graph)
    return state.valueAt depth graph.root

end SchemaSemver.Yaml
