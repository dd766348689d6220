/-
SchemaSemver.Yaml.Merging — mappings that take over the entries of other mappings.

An entry under the merge key stands for the entries of a mapping, or of those in a sequence. It is
taken out of its mapping, and what it stands for is put in front of the other entries, so that of
two equal keys the own one counts. Merging changes the mapping itself, for everything that refers
to it: it is merged but once. Keys for the scalar that a mapping may stand for become plain texts
there.
-/
import SchemaSemver.Yaml.Graph

namespace SchemaSemver.Yaml

/-- The entries of a mapping: keys and values. -/
abbrev NodeEntries := List (NodeId × NodeId)

/-- A step that merges mappings among nodes. -/
abbrev Merging (α : Type) := StateT Nodes (Except Fault) α

namespace Merging

/-- The text breaks a rule. -/
def refuse {α : Type} : Merging α := fun _ => reject

/-- The entries of a node, which must be a mapping. -/
def entries (id : NodeId) : Merging NodeEntries := do
  match ((← get).node id).content with
  | .mapping entries => return entries
  | _ => refuse

/-- Gives a mapping other entries. -/
def setEntries (id : NodeId) (entries : NodeEntries) : Merging Unit :=
  modify fun nodes => nodes.modify id fun node => { node with content := .mapping entries }

/-- Makes a plain text of a key for the scalar that a mapping stands for. -/
def settleKey (id : NodeId) : Merging Unit :=
  modify fun nodes => nodes.modify id fun node =>
    if node.tag = .scalarValue then { node with tag := .string } else node

/-- Takes the first entry under the merge key out of a mapping. -/
def takeMergeEntry? (id : NodeId) : Merging (Option NodeId) := do
  let nodes ← get
  let all ← entries id
  let isMerge (entry : NodeId × NodeId) : Bool := (nodes.node entry.1).tag == .merge
  match all.find? isMerge with
  | none => return none
  | some (_, value) =>
    setEntries id (all.eraseP isMerge)
    return some value

/-- The mappings that a merge entry stands for. -/
def sources (value : NodeId) : Merging (List NodeId) := do
  match ((← get).node value).content with
  | .mapping _ => return [value]
  | .sequence items => return items
  | .scalar _ => refuse

/-- Takes all merge entries out of a mapping and gives what they stand for; of the mappings in a
sequence the last comes first. Each mapping is itself merged before, in the same way. The first
argument bounds the number of merge entries. -/
def takeMerged : Nat → NodeId → Merging NodeEntries
  | 0, _ => refuse
  | fuel + 1, id => do
    match ← takeMergeEntry? id with
    | none =>
      (← entries id).forM fun entry => settleKey entry.1
      return []
    | some value =>
      let parts ← (← sources value).mapM fun source => do
        let merged ← takeMerged fuel source
        setEntries source (merged ++ (← entries source))
        entries source
      return parts.reverse.flatten ++ (← takeMerged fuel id)

end Merging

/-- The number of entries of all mappings. -/
def Nodes.entryCount (nodes : Nodes) : Nat :=
  nodes.foldl (fun count node => count + node.content.entryCount) 0

/-- Merges a mapping and gives its entries. -/
def mergeEntries (id : NodeId) : Merging NodeEntries := do
  let merged ← Merging.takeMerged ((← get).entryCount + 1) id
  Merging.setEntries id (merged ++ (← Merging.entries id))
  Merging.entries id

end SchemaSemver.Yaml
