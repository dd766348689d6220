/-
SchemaSemver.TypeSystem.Answer — the introspection answer of a schema.

The answer is a JSON value that lists the types with their members. It follows references to types
through at most nine wrappers; what lies deeper is missing from it. Only the parts that describe
the shape of a schema are answered.
-/
import SchemaSemver.Json.Value
import SchemaSemver.TypeSystem.Schema

namespace SchemaSemver.TypeSystem

open Sdl
open Json (Value)

/-- The kind of a type as introspection names it. -/
def kindOf : TypeBody → String
  | .scalar => "SCALAR"
  | .object _ _ => "OBJECT"
  | .interface _ _ => "INTERFACE"
  | .union _ => "UNION"
  | .enum _ => "ENUM"
  | .inputObject _ => "INPUT_OBJECT"

namespace Schema

variable (schema : Schema)

/-- The number of wrappers that a reference is followed through. -/
def referenceDepth : Nat := 9

/-- An object that names a type. -/
def namedAnswer (kind name : String) : Value :=
  .object [("kind", .string kind), ("name", .string name)]

/-- A wrapper around a reference that may be out of reach. -/
def wrapperAnswer (kind : String) : Option Value → Value
  | some inner => .object [("kind", .string kind), ("name", .null), ("ofType", inner)]
  | none => .object [("kind", .string kind), ("name", .null)]

/-- A reference to a type; the first argument says how many wrappers are still followed. -/
def referenceAnswer : Nat → TypeExpr → Value
  | _, .named name =>
    namedAnswer (((schema.type? name).map fun type => kindOf type.body).getD "") name
  | 0, .list _ => wrapperAnswer "LIST" none
  | 0, .nonNull _ => wrapperAnswer "NON_NULL" none
  | depth + 1, .list item => wrapperAnswer "LIST" (some (referenceAnswer depth item))
  | depth + 1, .nonNull item => wrapperAnswer "NON_NULL" (some (referenceAnswer depth item))

/-- An argument or input field. -/
def inputValueAnswer (value : InputValueDef) : Value :=
  .object [("name", .string value.name),
    ("type", schema.referenceAnswer referenceDepth value.type)]

/-- A field. -/
def fieldAnswer (field : FieldDef) : Value :=
  .object [("name", .string field.name),
    ("args", .array (field.arguments.map schema.inputValueAnswer)),
    ("type", schema.referenceAnswer referenceDepth field.type)]

/-- The object types that implement an interface, in the order of types. -/
def implementations (interface : String) : List String :=
  schema.types.filterMap fun type =>
    match type.body with
    | .object interfaces _ => if interfaces.contains interface then some type.name else none
    | _ => none

/-- The members that every answer about a type has. -/
def headAnswer (type : TypeDef) : List Json.Member :=
  [("kind", .string (kindOf type.body)), ("name", .string type.name)]

/-- The interfaces of a type. -/
def interfacesAnswer (interfaces : List String) : Json.Member :=
  ("interfaces", .array (interfaces.map (namedAnswer "INTERFACE")))

/-- The fields of a type. -/
def fieldsAnswer (fields : List FieldDef) : Json.Member :=
  ("fields", .array (fields.map schema.fieldAnswer))

/-- The possible types of a type. -/
def possibleTypesAnswer (names : List String) : Json.Member :=
  ("possibleTypes", .array (names.map (namedAnswer "OBJECT")))

/-- The members that only types of its kind have. -/
def bodyAnswer (type : TypeDef) : List Json.Member :=
  match type.body with
  | .scalar => []
  | .object interfaces fields => [schema.fieldsAnswer fields, interfacesAnswer interfaces]
  | .interface interfaces fields =>
    [schema.fieldsAnswer fields, interfacesAnswer interfaces,
     possibleTypesAnswer (schema.implementations type.name)]
  | .union members => [possibleTypesAnswer members]
  | .enum values =>
    [("enumValues", .array (values.map fun value => .object [("name", .string value.name)]))]
  | .inputObject fields => [("inputFields", .array (fields.map schema.inputValueAnswer))]

/-- A type. -/
def typeAnswer (type : TypeDef) : Value := .object (headAnswer type ++ schema.bodyAnswer type)

/-- The whole answer. -/
def answer : Value :=
  .object [("__schema", .object [("types", .array (schema.types.map schema.typeAnswer))])]

end Schema

end SchemaSemver.TypeSystem
