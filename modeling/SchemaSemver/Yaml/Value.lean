/-
SchemaSemver.Yaml.Value — the values of documents, as far as settings look into them.

Truth values and texts are told apart from all other scalars, mappings from all other collections.
-/
import SchemaSemver.Text.LooseText

namespace SchemaSemver.Yaml

/-- A value. -/
inductive Value where
  | null
  | bool (b : Bool)
  | text (s : LooseText)
  /-- A number, a moment or bytes, as it is written. -/
  | datum (written : LooseText)
  /-- The entries in order; of two with one key the later one counts. -/
  | mapping (entries : List (Value × Value))
  /-- A sequence, a set, or a mapping below the depth that was asked for. -/
  | collection
deriving Repr

namespace Value

/-- Is the value the given text? -/
def isText (s : String) : Value → Bool
  | text t => t == LooseText.ofString s
  | _ => false

/-- The text that the value is, if it is one. -/
def text? : Value → Option LooseText
  | text s => some s
  | _ => none

end Value

/-- The value of a text as a key among entries. -/
def lookup (name : String) (entries : List (Value × Value)) : Option Value :=
  (entries.reverse.find? fun entry => entry.1.isText name).map Prod.snd

end SchemaSemver.Yaml
