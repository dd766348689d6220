/-
SchemaSemver.Sdl.Document — what a schema text says.

A document is a list of definitions. Those of types, directives and the schema may also come as
extensions of earlier or later ones. Operations and fragments may stand in a schema text; they are
kept only as far as the rules about names and directives look at them. Descriptions are not kept.
-/

namespace SchemaSemver.Sdl

/-! ## Types, values, directives -/

/-- A type as it is written in front of a use. -/
inductive TypeExpr where
  | named (name : String)
  | list (item : TypeExpr)
  | nonNull (item : TypeExpr)
deriving DecidableEq, Repr

/-- The named type at the end of a written type. -/
def TypeExpr.leaf : TypeExpr → String
  | named name => name
  | list item => item.leaf
  | nonNull item => item.leaf

/-- Is the outermost mark of the type the exclamation mark? -/
def TypeExpr.isNonNull : TypeExpr → Bool
  | nonNull _ => true
  | _ => false

/-- A value as it is written. Numbers stay texts, because their type decides how they are read. -/
inductive Literal where
  | variable (name : String)
  | integer (text : String)
  | float (text : String)
  | string (text : String)
  | boolean (value : Bool)
  | null
  | enumValue (name : String)
  | list (items : List Literal)
  | object (fields : List (String × Literal))

/-- A named value: an argument, or a field of an object literal. -/
abbrev NamedLiteral := String × Literal

/-- A directive in use. -/
structure Directive where
  name : String
  arguments : List NamedLiteral

/-! ## Definitions -/

/-- The kinds of operation. -/
inductive OperationType where
  | query
  | mutation
  | subscription
deriving DecidableEq, Repr

/-- The operation type that a word names. -/
def OperationType.ofName? : String → Option OperationType
  | "query" => some query
  | "mutation" => some mutation
  | "subscription" => some subscription
  | _ => none

/-- The places where a directive may be used. -/
inductive DirectiveLocation where
  | query
  | mutation
  | subscription
  | field
  | fragmentDefinition
  | fragmentSpread
  | inlineFragment
  | variableDefinition
  | fragmentVariableDefinition
  | schema
  | scalar
  | object
  | fieldDefinition
  | argumentDefinition
  | interface
  | union
  | enum
  | enumValue
  | inputObject
  | inputFieldDefinition
  | directiveDefinition
deriving DecidableEq, Repr

/-- The locations with the words that name them, in the order in which introspection lists them. -/
def DirectiveLocation.names : List (DirectiveLocation × String) :=
  [(query, "QUERY"), (mutation, "MUTATION"), (subscription, "SUBSCRIPTION"), (field, "FIELD"),
   (fragmentDefinition, "FRAGMENT_DEFINITION"), (fragmentSpread, "FRAGMENT_SPREAD"),
   (inlineFragment, "INLINE_FRAGMENT"), (variableDefinition, "VARIABLE_DEFINITION"),
   (fragmentVariableDefinition, "FRAGMENT_VARIABLE_DEFINITION"), (schema, "SCHEMA"),
   (scalar, "SCALAR"), (object, "OBJECT"), (fieldDefinition, "FIELD_DEFINITION"),
   (argumentDefinition, "ARGUMENT_DEFINITION"), (interface, "INTERFACE"), (union, "UNION"),
   (enum, "ENUM"), (enumValue, "ENUM_VALUE"), (inputObject, "INPUT_OBJECT"),
   (inputFieldDefinition, "INPUT_FIELD_DEFINITION"),
   (directiveDefinition, "DIRECTIVE_DEFINITION")]

/-- The location that a word names. -/
def DirectiveLocation.ofName? (name : String) : Option DirectiveLocation :=
  (names.find? fun entry => entry.2 == name).map Prod.fst

/-- An argument, or a field of an input object. -/
structure InputValueDef where
  name : String
  type : TypeExpr
  default : Option Literal
  directives : List Directive

/-- Must the value be given? -/
def InputValueDef.isRequired (value : InputValueDef) : Bool :=
  value.type.isNonNull && value.default.isNone

/-- An output field. -/
structure FieldDef where
  name : String
  arguments : List InputValueDef
  type : TypeExpr
  directives : List Directive

/-- An enum value. -/
structure EnumValueDef where
  name : String
  directives : List Directive

/-- What a type is made of. -/
inductive TypeBody where
  | scalar
  | object (interfaces : List String) (fields : List FieldDef)
  | interface (interfaces : List String) (fields : List FieldDef)
  | union (members : List String)
  | enum (values : List EnumValueDef)
  | inputObject (fields : List InputValueDef)

/-- The definition of a type, or an extension of one. -/
structure TypeDef where
  name : String
  directives : List Directive
  body : TypeBody

/-- The definition of a directive. -/
structure DirectiveDef where
  name : String
  arguments : List InputValueDef
  directives : List Directive
  isRepeatable : Bool
  locations : List DirectiveLocation

/-- The root types that a schema definition or extension names. -/
structure SchemaDef where
  directives : List Directive
  roots : List (OperationType × String)

/-! ## Operations and fragments -/

/-- A variable of an operation. -/
structure VariableDef where
  type : TypeExpr
  default : Option Literal
  directives : List Directive

/-- A part of a selection set. -/
inductive Selection where
  | field (arguments : List NamedLiteral) (directives : List Directive)
      (selections : List Selection)
  | spread (directives : List Directive)
  | inline (condition : Option String) (directives : List Directive)
      (selections : List Selection)

/-- An operation. -/
structure OperationDef where
  type : OperationType
  variableDefs : List VariableDef
  directives : List Directive
  selections : List Selection

/-- A fragment. -/
structure FragmentDef where
  condition : String
  directives : List Directive
  selections : List Selection

/-! ## Documents -/

/-- One definition of a document. -/
inductive Definition where
  | schema (definition : SchemaDef)
  | schemaExtension (definition : SchemaDef)
  | type (definition : TypeDef)
  | typeExtension (definition : TypeDef)
  | directive (definition : DirectiveDef)
  | directiveExtension (name : String) (directives : List Directive)
  | operation (definition : OperationDef)
  | fragment (definition : FragmentDef)

/-- A document. -/
abbrev Document := List Definition

namespace Document

/-- The defined types, without their extensions. -/
def types (document : Document) : List TypeDef :=
  document.filterMap fun
    | .type definition => some definition
    | _ => none

/-- The extensions of types. -/
def typeExtensions (document : Document) : List TypeDef :=
  document.filterMap fun
    | .typeExtension definition => some definition
    | _ => none

/-- The defined directives. -/
def directives (document : Document) : List DirectiveDef :=
  document.filterMap fun
    | .directive definition => some definition
    | _ => none

/-- The schema definitions. -/
def schemas (document : Document) : List SchemaDef :=
  document.filterMap fun
    | .schema definition => some definition
    | _ => none

/-- The schema extensions. -/
def schemaExtensions (document : Document) : List SchemaDef :=
  document.filterMap fun
    | .schemaExtension definition => some definition
    | _ => none

end Document

end SchemaSemver.Sdl
