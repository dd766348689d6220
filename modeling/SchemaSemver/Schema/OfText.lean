/-
SchemaSemver.Schema.OfText — from a schema text to its declarations.

A text is parsed, checked and turned into a schema; the schema answers introspection, and the
declarations are extracted from that answer. A text that does not get through is rejected with a
cause.
-/
import SchemaSemver.Introspection.Projection
import SchemaSemver.Schema.Extraction
import SchemaSemver.Sdl.Parser
import SchemaSemver.TypeSystem.Answer
import SchemaSemver.TypeSystem.Validity

namespace SchemaSemver

/-- Why a schema is rejected. -/
inductive SchemaFault where
  /-- The text breaks the grammar at a position. -/
  | illFormed (problem : Sdl.SyntaxProblem) (position : Sdl.Position)
  /-- The text breaks a rule about definitions. -/
  | invalid
  /-- The introspection answer gives no definitions. -/
  | unprojectable (fault : ProjectionFault)
deriving DecidableEq, Repr

/-- What is said about an answer that gives no definitions. -/
def ProjectionFault.message : ProjectionFault → String
  | rejected reason => reason.message
  | interfacesWithoutItems => "Introspection interfaces must be a list."
  | possibleTypeWithoutMembers => "Introspected possible types must be objects."

/-- What is said about a rejected schema. -/
def SchemaFault.message : SchemaFault → String
  | illFormed problem _ => "Invalid GraphQL schema: Syntax Error: " ++ problem.message
  | invalid => "Invalid GraphQL schema"
  | unprojectable fault => fault.message

/-- The introspection answer of a schema text. -/
def introspectText (text : String) : Except SchemaFault Json.Value :=
  match Sdl.parseDocument text with
  | .error fault => .error (.illFormed fault.problem (Sdl.positionOf text.toList fault.offset))
  | .ok document =>
    if document.isWellFormed && TypeSystem.annotationsReadable document then
      let schema := TypeSystem.Schema.ofDocument document
      if schema.isValid then .ok schema.answer else .error .invalid
    else .error .invalid

/-- The type definitions of an introspection answer. -/
def definitionsOfAnswer (answer : Json.Value) : Except SchemaFault (List TypeDefinition) :=
  (Introspection.projectDefinitions answer).mapError .unprojectable

/-- The declarations of an introspection answer. -/
def extractAnswer (answer : Json.Value) : Except SchemaFault Extraction :=
  (definitionsOfAnswer answer).map extract

/-- The type definitions of a schema text. -/
def definitionsOfText (text : String) : Except SchemaFault (List TypeDefinition) :=
  introspectText text >>= definitionsOfAnswer

/-- The declarations of a schema text. -/
def extractText (text : String) : Except SchemaFault Extraction :=
  (definitionsOfText text).map extract

end SchemaSemver
