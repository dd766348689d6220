/-
SchemaSemver.Schema.Definition — the type definitions that a comparison looks at.

A definition keeps what the comparison policy cares about and nothing else: descriptions,
deprecations, default values and directives have no place here, so they cannot influence a result.
-/
import SchemaSemver.Schema.TypeRef

namespace SchemaSemver

/-- An output field of an object or interface type. -/
structure Field where
  name : String
  type : TypeRef
  arguments : List InputValue
deriving DecidableEq, Repr

/-- A member of a union, or an implementation of an interface. -/
structure PossibleType where
  kind : String
  name : String
deriving DecidableEq, Repr

/-- A named type of a schema. The last case holds a type of a kind that GraphQL does not know. -/
inductive TypeDefinition where
  | scalar (name : String)
  | object (name : String) (interfaces : List String) (fields : List Field)
  | interface (name : String) (interfaces : List String) (fields : List Field)
      (possibleTypes : List PossibleType)
  | union (name : String) (possibleTypes : List PossibleType)
  | enum (name : String) (values : List String)
  | inputObject (name : String) (inputFields : List InputValue)
  | unrecognised (name kind : String)
deriving DecidableEq, Repr

/-- The name under which a type is declared. -/
def TypeDefinition.name : TypeDefinition → String
  | scalar name => name
  | object name _ _ => name
  | interface name _ _ _ => name
  | union name _ => name
  | enum name _ => name
  | inputObject name _ => name
  | unrecognised name _ => name

end SchemaSemver
