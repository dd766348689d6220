/-
SchemaSemver.TypeSystem.Annotation — what directives say about the definitions that bear them.

A directive can deprecate a definition, for a reason, or point to the specification of a scalar. The
reason and the place of the specification must be texts, in each definition and in each extension.
-/
import SchemaSemver.Sdl.Rules

namespace SchemaSemver.TypeSystem

open Sdl

/-! ## Reading directives -/

/-- The text that an argument of a directive is given; `none` when it is given something else, and
the fallback when it is not given. -/
def directiveText (directive : Directive) (argument : String) (fallback : Option String) :
    Option String :=
  match directive.arguments.find? fun given => given.1 == argument with
  | some (_, .string text) => some text
  | some _ => none
  | none => fallback

/-- Is something deprecated? -/
def isDeprecated (directives : List Directive) : Bool :=
  directives.any (·.name == "deprecated")

/-- Is the reason of a deprecation, if there is one, a text? -/
def deprecationReadable (directives : List Directive) : Bool :=
  match directives.find? (·.name == "deprecated") with
  | some directive => (directiveText directive "reason" (some "")).isSome
  | none => true

/-- Is the specification of a scalar, if it has one, a text? -/
def specificationReadable (directives : List Directive) : Bool :=
  match directives.find? (·.name == "specifiedBy") with
  | some directive => (directiveText directive "url" none).isSome
  | none => true

/-! ## Definitions -/

/-- Are the deprecations of arguments or input fields readable? -/
def valuesReadable (values : List InputValueDef) : Bool :=
  values.all fun value => deprecationReadable value.directives

/-- Are the deprecations of fields and their arguments readable? -/
def fieldsReadable (fields : List FieldDef) : Bool :=
  fields.all fun field => deprecationReadable field.directives && valuesReadable field.arguments

/-- Can everything be read that directives say about a type, or in an extension of one? -/
def typeReadable (type : TypeDef) : Bool :=
  match type.body with
  | .scalar => specificationReadable type.directives
  | .object _ fields => fieldsReadable fields
  | .interface _ fields => fieldsReadable fields
  | .union _ => true
  | .enum values => values.all fun value => deprecationReadable value.directives
  | .inputObject fields => valuesReadable fields

/-- Can everything be read that directives say about a directive? -/
def directiveReadable (directive : DirectiveDef) : Bool :=
  deprecationReadable directive.directives && valuesReadable directive.arguments

/-- Can everything be read that directives say in a definition of the document? What it says about
types that are standard ones, and about directives that it does not define, is not read. -/
def definitionReadable (document : Document) : Definition → Bool
  | .type type => (Standard.type? type.name).isSome || typeReadable type
  | .typeExtension type => (Standard.type? type.name).isSome || typeReadable type
  | .directive directive => directiveReadable directive
  | .directiveExtension name directives =>
    !document.directives.any (·.name == name) || deprecationReadable directives
  | _ => true

/-- Can everything be read that directives say in the document? -/
def annotationsReadable (document : Document) : Bool :=
  document.all (definitionReadable document)

end SchemaSemver.TypeSystem
