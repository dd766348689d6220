/-
SchemaSemver.TypeSystem.Schema — the schema that a document describes.

The types of a schema are those of the document in the order of their definitions, each with what
its extensions add; right after a type come the standard types that it is the first to reach. Types
of directive arguments and the types of introspection close the list.
-/
import SchemaSemver.Sdl.Rules

namespace SchemaSemver.TypeSystem

open Sdl

/-- A schema: its types in order, the root type of each operation, and its directives. -/
structure Schema where
  types : List TypeDef
  roots : List (OperationType × String)
  directives : List DirectiveDef

/-- The type of a name. -/
def Schema.type? (schema : Schema) (name : String) : Option TypeDef :=
  schema.types.find? fun type => type.name == name

/-! ## Types with their extensions -/

/-- A type body with what an extension of the same kind adds. -/
def extendBody : TypeBody → TypeBody → TypeBody
  | .object interfaces fields, .object moreInterfaces moreFields =>
    .object (interfaces ++ moreInterfaces) (fields ++ moreFields)
  | .interface interfaces fields, .interface moreInterfaces moreFields =>
    .interface (interfaces ++ moreInterfaces) (fields ++ moreFields)
  | .union members, .union more => .union (members ++ more)
  | .enum values, .enum more => .enum (values ++ more)
  | .inputObject fields, .inputObject more => .inputObject (fields ++ more)
  | body, _ => body

/-- A type of the document: a standard type under a standard name, otherwise the definition with
all its extensions in order. The directives on the definition alone are kept. -/
def resolveType (document : Document) (type : TypeDef) : TypeDef :=
  match Standard.type? type.name with
  | some standard => standard
  | none =>
    let parts := document.typeExtensions.filter (·.name == type.name)
    { type with body := (parts.map TypeDef.body).foldl extendBody type.body }

/-! ## The order of types -/

/-- The types that a type refers to, in the order in which they are visited. -/
def references (type : TypeDef) : List String := Document.bodyTypes type.body

/-- The number of references inside the standard types. -/
def standardReferenceCount : Nat := (Standard.types.flatMap references).length

/-- Visits names depth first and adds each standard type that was not seen before. The first
argument bounds the number of visits. -/
def collect : Nat → List String → List String → List TypeDef → List String × List TypeDef
  | 0, _, seen, found => (seen, found)
  | _ + 1, [], seen, found => (seen, found)
  | bound + 1, name :: pending, seen, found =>
    if seen.contains name then collect bound pending seen found
    else
      match Standard.type? name with
      | none => collect bound pending seen found
      | some type =>
        collect bound (references type ++ pending) (name :: seen) (found ++ [type])

/-- The standard types newly reached from names, with the names seen by then. -/
def reach (names seen : List String) : List String × List TypeDef :=
  collect (names.length + standardReferenceCount + 1) names seen []

/-- The types in order, each followed by the standard types that it is the first to reach. -/
def withReached : List TypeDef → List String → List String × List TypeDef
  | [], seen => (seen, [])
  | type :: rest, seen =>
    let (seen, found) := reach (references type) seen
    let (seen, later) := withReached rest seen
    (seen, type :: (found ++ later))

/-- The root types in the order of their operations, in whichever order they were named. -/
def rootNames (roots : List (OperationType × String)) : List String :=
  [OperationType.query, .mutation, .subscription].filterMap fun operation => roots.lookup operation

/-- All types of a schema, from the document's own types, its root types and its directives. -/
def orderTypes (own : List TypeDef) (roots : List (OperationType × String))
    (directives : List DirectiveDef) : List TypeDef :=
  let (seen, types) := withReached own (own.map TypeDef.name)
  let argumentTypes := directives.flatMap fun directive =>
    Document.valueTypes directive.arguments
  types ++ (reach (rootNames roots ++ argumentTypes ++ ["__Schema"]) seen).2

/-! ## Roots and directives -/

/-- The name of the type that is the root of an operation when no schema definition says
otherwise. -/
def conventionalRoots : List (OperationType × String) :=
  [(.query, "Query"), (.mutation, "Mutation"), (.subscription, "Subscription")]

/-- The root types. Without a schema definition a type of a conventional name goes before what
schema extensions say. -/
def rootsOf (document : Document) : List (OperationType × String) :=
  let added := document.schemaExtensions.flatMap SchemaDef.roots
  if document.schemas.isEmpty then
    let found := conventionalRoots.filter fun root =>
      document.types.any (·.name == root.2)
    found ++ added.filter fun root => !(found.map Prod.fst).contains root.1
  else document.schemas.flatMap SchemaDef.roots ++ added

/-- The directives of the document, then the standard ones that it does not define itself. -/
def directivesOf (document : Document) : List DirectiveDef :=
  document.directives ++ Standard.directives.filter fun standard =>
    !document.directives.any (·.name == standard.name)

/-- The schema that a well-formed document describes. -/
def Schema.ofDocument (document : Document) : Schema :=
  let own := document.types.map (resolveType document)
  let roots := rootsOf document
  let directives := directivesOf document
  ⟨orderTypes own roots directives, roots, directives⟩

end SchemaSemver.TypeSystem
