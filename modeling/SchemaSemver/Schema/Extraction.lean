/-
SchemaSemver.Schema.Extraction — from type definitions to declarations.

Each construct of a type becomes one entry: a declaration, or a note that the construct is not
supported. Entries come in the order of the constructs, and what is unsupported never hides what
stands beside it. An extraction is the two kinds of entry sorted apart.
-/
import SchemaSemver.Schema.Definition
import SchemaSemver.Schema.Declaration

namespace SchemaSemver

/-! ## Entries -/

/-- What one construct of a schema turns into. -/
inductive Entry where
  | declared (declaration : Declaration)
  | skipped (construct : Unsupported)
deriving DecidableEq, Repr

namespace Entry

/-- The declaration of the entry, if it is one. -/
def declaration? : Entry → Option Declaration
  | declared declaration => some declaration
  | skipped _ => none

/-- The unsupported construct of the entry, if it is one. -/
def unsupported? : Entry → Option Unsupported
  | declared _ => none
  | skipped construct => some construct

end Entry

/-- The path of a member of a type. -/
def memberPath (typeName memberName : String) : String := typeName ++ "." ++ memberName

/-- A type's own declaration. -/
def selfEntry (typeName signature : String) : Entry :=
  .declared ⟨typeName, signature, Declaration.noParent⟩

/-- A member without a signature is skipped under its path. -/
def memberEntry (path parent : String) : Except UnsupportedKind String → Entry
  | .ok signature => .declared ⟨path, signature, parent⟩
  | .error fault => .skipped ⟨.fieldType, path, fault.type.kind⟩

namespace Field

/-- A field's signature: its arguments, then its type. -/
def signature (field : Field) : Except UnsupportedKind String := do
  let arguments ← InputValue.listSignature field.arguments
  let type ← field.type.signature
  return arguments ++ type

/-- An output field may be added freely, so it has no parent. -/
def entry (typeName : String) (field : Field) : Entry :=
  memberEntry (memberPath typeName field.name) Declaration.noParent field.signature

end Field

/-- A field of an input object. A newly required one breaks every existing caller, so exactly the
non-null ones have their type as parent. -/
def InputValue.entry (typeName : String) (value : InputValue) : Entry :=
  memberEntry (memberPath typeName value.name)
    (if value.type.isNonNull then typeName else Declaration.noParent) value.type.signature

/-- A possible type, under the kind it was reported with. -/
def PossibleType.entry (typeName : String) (member : PossibleType) : Entry :=
  .declared ⟨memberPath typeName member.name, "POSSIBLE_" ++ member.kind, typeName⟩

/-- An enum value. -/
def enumValueEntry (typeName value : String) : Entry :=
  .declared ⟨memberPath typeName value, "ENUM_VALUE", typeName⟩

/-- The entries of one type: the type itself, then its members in order. -/
def TypeDefinition.entries : TypeDefinition → List Entry
  | scalar name => [selfEntry name "SCALAR"]
  | object name interfaces fields =>
    selfEntry name ("OBJECT:" ++ Text.joinWith "," interfaces) :: fields.map (Field.entry name)
  | interface name interfaces fields possibleTypes =>
    selfEntry name ("INTERFACE:" ++ Text.joinWith "," interfaces)
      :: (fields.map (Field.entry name) ++ possibleTypes.map (PossibleType.entry name))
  | union name possibleTypes =>
    selfEntry name "UNION" :: possibleTypes.map (PossibleType.entry name)
  | enum name values => selfEntry name "ENUM" :: values.map (enumValueEntry name)
  | inputObject name inputFields =>
    selfEntry name "INPUT_OBJECT" :: inputFields.map (InputValue.entry name)
  | unrecognised name kind => [.skipped ⟨.type, name, kind⟩]

/-! ## Extractions -/

/-- The declarations of a schema, and every construct that has none. -/
structure Extraction where
  declarations : List Declaration
  unsupported : List Unsupported
deriving DecidableEq, Repr

namespace Extraction

/-- Entries sorted by what they hold, each kind in order. -/
def ofEntries (entries : List Entry) : Extraction :=
  ⟨entries.filterMap Entry.declaration?, entries.filterMap Entry.unsupported?⟩

/-- Does every construct have a declaration? -/
def isComplete (extraction : Extraction) : Bool := extraction.unsupported.isEmpty

end Extraction

/-- The declarations of all the types, one type after the other. -/
def extract (definitions : List TypeDefinition) : Extraction :=
  Extraction.ofEntries (definitions.flatMap TypeDefinition.entries)

end SchemaSemver
