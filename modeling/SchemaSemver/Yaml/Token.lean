/-
SchemaSemver.Yaml.Token — tokens of YAML texts, and what can be wrong with a text.

Block collections have no written brackets; the tokens that open and close them are worked out from
the indentation. A tag is a handle, which a document may define, and a suffix.
-/
import SchemaSemver.Text.LooseText
import SchemaSemver.Yaml.Character

namespace SchemaSemver.Yaml

/-! ## Tags -/

/-- A tag as it is written. -/
structure WrittenTag where
  /-- The handle; a tag in angle brackets has none. -/
  handle : Option String
  suffix : String
deriving DecidableEq, Repr

/-- The tag `!` alone, which asks for the meaning that an untagged plain scalar would have. -/
def WrittenTag.plain : WrittenTag := ⟨none, "!"⟩

/-! ## Tokens -/

/-- A line in front of a document. -/
inductive Directive where
  | version (major minor : Nat)
  | tag (handle expansion : String)
  | other
deriving DecidableEq, Repr

/-- A token. -/
inductive Token where
  | directive (line : Directive)
  | documentStart
  | documentEnd
  | blockSequence
  | blockMapping
  | blockEnd
  | sequenceOpen
  | sequenceClose
  | mappingOpen
  | mappingClose
  | blockEntry
  | flowEntry
  | key
  | value
  | reference (name : String)
  | anchor (name : String)
  | tag (tag : WrittenTag)
  /-- A scalar; plain ones stand without quotes. -/
  | scalar (isPlain : Bool) (text : LooseText)
deriving DecidableEq, Repr

/-! ## Faults -/

/-- Why a scalar has no value of the kind that its tag asks for. -/
inductive ScalarFault where
  /-- It is none of the words for a truth value. -/
  | noTruthValue
  /-- It is a number without a digit. -/
  | noNumber
  /-- It is no number. -/
  | wrongNumber
  /-- It is a whole number with more digits than can be read. -/
  | longNumber
  /-- It is a number in base sixty with so many parts that the first has no weight. -/
  | numberTooLarge
  /-- It is not written as a date. -/
  | noDate
  /-- It is written as a date that does not exist. -/
  | wrongDate
  /-- It is a mapping that stands for a scalar, and a date is asked for. -/
  | mappedDate
deriving DecidableEq, Repr

/-- Why a text has no value. -/
inductive Fault where
  /-- The text breaks a rule of YAML. -/
  | illFormed
  /-- An escape names a number that no character has. -/
  | noCharacter (code : Nat)
  /-- A line in front of a document names a version with more digits than can be read. -/
  | longVersion
  /-- The text is well formed, but a scalar in it cannot be read. -/
  | unreadable (fault : ScalarFault)
deriving DecidableEq, Repr

/-- What reading a part of a text gives. -/
abbrev Result (α : Type) := Except Fault α

/-- The text breaks a rule. -/
def reject {α : Type} : Result α := .error .illFormed

/-- The text must keep a rule. -/
def require (holds : Bool) : Result Unit := if holds then .ok () else reject

end SchemaSemver.Yaml
