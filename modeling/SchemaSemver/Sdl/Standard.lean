/-
SchemaSemver.Sdl.Standard — the types and directives that every schema has.

They are written as definitions of a document, so that what is said about defined types and
directives holds of them without a second notion. A document may use the names without defining
them; where it does define a type of such a name, the standard type stands in its place.
-/
import SchemaSemver.Sdl.Document

namespace SchemaSemver.Sdl.Standard

/-! ## Spelling out definitions -/

/-- A named type that may be null. -/
def optional (name : String) : TypeExpr := .named name

/-- A named type that may not be null. -/
def required (name : String) : TypeExpr := .nonNull (.named name)

/-- A list without null items that may itself be null. -/
def optionalList (name : String) : TypeExpr := .list (required name)

/-- A list without null items that may not be null itself. -/
def requiredList (name : String) : TypeExpr := .nonNull (optionalList name)

/-- A field without arguments. -/
def field (name : String) (type : TypeExpr) : FieldDef := ⟨name, [], type, []⟩

/-- A field that lists deprecated entries on demand. -/
def listing (name : String) (type : TypeExpr) : FieldDef :=
  ⟨name, [⟨"includeDeprecated", required "Boolean", some (.boolean false), []⟩], type, []⟩

/-- An object type without interfaces. -/
def object (name : String) (fields : List FieldDef) : TypeDef := ⟨name, [], .object [] fields⟩

/-- An enum type. -/
def enum (name : String) (values : List String) : TypeDef :=
  ⟨name, [], .enum (values.map (⟨·, []⟩))⟩

/-! ## Types -/

/-- The names of the built-in scalars. -/
def scalarNames : List String := ["Int", "Float", "String", "Boolean", "ID"]

/-- The built-in scalars. -/
def scalars : List TypeDef := scalarNames.map (⟨·, [], .scalar⟩)

/-- The fields that say whether something is deprecated. -/
def deprecationFields : List FieldDef :=
  [field "isDeprecated" (required "Boolean"), field "deprecationReason" (optional "String")]

/-- The fields that name and describe something. -/
def namingFields : List FieldDef :=
  [field "name" (required "String"), field "description" (optional "String")]

/-- The types of introspection. -/
def introspectionTypes : List TypeDef :=
  [object "__Schema"
     [field "description" (optional "String"), field "types" (requiredList "__Type"),
      field "queryType" (required "__Type"), field "mutationType" (optional "__Type"),
      field "subscriptionType" (optional "__Type"),
      listing "directives" (requiredList "__Directive")],
   object "__Type"
     [field "kind" (required "__TypeKind"), field "name" (optional "String"),
      field "description" (optional "String"), field "specifiedByURL" (optional "String"),
      listing "fields" (optionalList "__Field"), field "interfaces" (optionalList "__Type"),
      field "possibleTypes" (optionalList "__Type"),
      listing "enumValues" (optionalList "__EnumValue"),
      listing "inputFields" (optionalList "__InputValue"), field "ofType" (optional "__Type"),
      field "isOneOf" (optional "Boolean")],
   enum "__TypeKind"
     ["SCALAR", "OBJECT", "INTERFACE", "UNION", "ENUM", "INPUT_OBJECT", "LIST", "NON_NULL"],
   object "__Field"
     (namingFields ++
       [listing "args" (requiredList "__InputValue"), field "type" (required "__Type")]
       ++ deprecationFields),
   object "__InputValue"
     (namingFields ++
       [field "type" (required "__Type"), field "defaultValue" (optional "String")]
       ++ deprecationFields),
   object "__EnumValue" (namingFields ++ deprecationFields),
   object "__Directive"
     (namingFields ++
       [field "isRepeatable" (required "Boolean"),
        field "locations" (requiredList "__DirectiveLocation"),
        listing "args" (requiredList "__InputValue")]
       ++ deprecationFields),
   enum "__DirectiveLocation" (DirectiveLocation.names.map Prod.snd)]

/-- All standard types. -/
def types : List TypeDef := scalars ++ introspectionTypes

/-- The standard type of a name. -/
def type? (name : String) : Option TypeDef := types.find? fun type => type.name == name

/-! ## Directives -/

/-- The condition of the directives that include or skip a part of an operation. -/
def condition : InputValueDef := ⟨"if", required "Boolean", none, []⟩

/-- The places of an operation that can be included or skipped. -/
def conditionalLocations : List DirectiveLocation := [.field, .fragmentSpread, .inlineFragment]

/-- The standard directives. -/
def directives : List DirectiveDef :=
  [⟨"include", [condition], [], false, conditionalLocations⟩,
   ⟨"skip", [condition], [], false, conditionalLocations⟩,
   ⟨"deprecated",
     [⟨"reason", required "String", some (.string "No longer supported"), []⟩], [], false,
     [.fieldDefinition, .argumentDefinition, .inputFieldDefinition, .enumValue,
      .directiveDefinition]⟩,
   ⟨"specifiedBy", [⟨"url", required "String", none, []⟩], [], false, [.scalar]⟩,
   ⟨"oneOf", [], [], false, [.inputObject]⟩]

end SchemaSemver.Sdl.Standard
