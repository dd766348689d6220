/-
SchemaSemver.Sdl.Rules — what a document must satisfy before a schema is built from it.

The rules look at names and places only: nothing is defined twice, everything that is used is
defined and stands where it may stand, and extended types are defined by the document itself. A
document is well formed when it breaks none of them.
-/
import SchemaSemver.Sdl.Standard

namespace SchemaSemver.Sdl

/-- Does no item occur twice? -/
def allDistinct {α : Type} [BEq α] : List α → Bool
  | [] => true
  | item :: rest => !rest.contains item && allDistinct rest

/-! ## Where directives are used -/

/-- The directives at one place of a document. -/
structure DirectiveUse where
  location : DirectiveLocation
  directives : List Directive

/-- The place of a type. -/
def TypeBody.location : TypeBody → DirectiveLocation
  | scalar => .scalar
  | object _ _ => .object
  | interface _ _ => .interface
  | union _ => .union
  | enum _ => .enum
  | inputObject _ => .inputObject

/-- The place of an operation. -/
def OperationType.location : OperationType → DirectiveLocation
  | query => .query
  | mutation => .mutation
  | subscription => .subscription

/-- The uses at arguments or input fields. -/
def inputValueUses (location : DirectiveLocation) (values : List InputValueDef) :
    List DirectiveUse :=
  values.map fun value => ⟨location, value.directives⟩

/-- The uses at a field and its arguments. -/
def FieldDef.uses (field : FieldDef) : List DirectiveUse :=
  ⟨.fieldDefinition, field.directives⟩ :: inputValueUses .argumentDefinition field.arguments

/-- The uses at the members of a type. -/
def TypeBody.memberUses : TypeBody → List DirectiveUse
  | scalar => []
  | object _ fields => fields.flatMap FieldDef.uses
  | interface _ fields => fields.flatMap FieldDef.uses
  | union _ => []
  | enum values => values.map fun value => ⟨.enumValue, value.directives⟩
  | inputObject fields => inputValueUses .inputFieldDefinition fields

mutual

/-- The uses in a part of a selection set. -/
def Selection.uses : Selection → List DirectiveUse
  | .field _ directives selections => ⟨.field, directives⟩ :: selectionUses selections
  | .spread directives => [⟨.fragmentSpread, directives⟩]
  | .inline _ directives selections => ⟨.inlineFragment, directives⟩ :: selectionUses selections

/-- The uses in a selection set. -/
def selectionUses : List Selection → List DirectiveUse
  | [] => []
  | selection :: rest => selection.uses ++ selectionUses rest

end

/-- The uses at a definition itself. -/
def Definition.ownUse : Definition → DirectiveUse
  | schema definition => ⟨.schema, definition.directives⟩
  | schemaExtension definition => ⟨.schema, definition.directives⟩
  | type definition => ⟨definition.body.location, definition.directives⟩
  | typeExtension definition => ⟨definition.body.location, definition.directives⟩
  | directive definition => ⟨.directiveDefinition, definition.directives⟩
  | directiveExtension _ directives => ⟨.directiveDefinition, directives⟩
  | operation definition => ⟨definition.type.location, definition.directives⟩
  | fragment definition => ⟨.fragmentDefinition, definition.directives⟩

/-- The uses inside a definition. -/
def Definition.innerUses : Definition → List DirectiveUse
  | type definition => definition.body.memberUses
  | typeExtension definition => definition.body.memberUses
  | directive definition => inputValueUses .argumentDefinition definition.arguments
  | operation definition =>
    definition.variableDefs.map (fun given => ⟨.variableDefinition, given.directives⟩)
      ++ selectionUses definition.selections
  | fragment definition => selectionUses definition.selections
  | _ => []

/-! ## What is defined -/

/-- What a definition is about, and its extensions are. -/
inductive Subject where
  | schema
  | type (name : String)
  | directive (name : String)
deriving DecidableEq, Repr

/-- What a definition is about; operations and fragments are about nothing in the schema. -/
def Definition.subject? : Definition → Option Subject
  | schema _ => some .schema
  | schemaExtension _ => some .schema
  | type definition => some (.type definition.name)
  | typeExtension definition => some (.type definition.name)
  | directive definition => some (.directive definition.name)
  | directiveExtension name _ => some (.directive name)
  | operation _ => none
  | fragment _ => none

namespace Document

/-- All uses of directives. -/
def directiveUses (document : Document) : List DirectiveUse :=
  document.flatMap fun definition => definition.ownUse :: definition.innerUses

/-- The directive of a name: one of the document, or else a standard one. -/
def directive? (document : Document) (name : String) : Option DirectiveDef :=
  (document.directives ++ Standard.directives).find? fun directive => directive.name == name

/-! ## Rules about directives -/

/-- Every directive is known and stands where it may stand. -/
def directivesKnown (document : Document) : Bool :=
  document.directiveUses.all fun use =>
    use.directives.all fun directive =>
      match document.directive? directive.name with
      | some definition => definition.locations.contains use.location
      | none => false

/-- Does no directive occur twice, apart from the repeatable ones? -/
def noneRepeated (document : Document) (directives : List Directive) : Bool :=
  allDistinct ((directives.map Directive.name).filter fun name =>
    match document.directive? name with
    | some definition => !definition.isRepeatable
    | none => false)

/-- The directives at a definition, together with those at all other definitions of its subject. -/
def directivesAround (document : Document) (definition : Definition) : List Directive :=
  match definition.subject? with
  | some subject =>
    (document.filter (·.subject? == some subject)).flatMap (·.ownUse.directives)
  | none => definition.ownUse.directives

/-- A directive that is not repeatable stands once at each place. A definition and its extensions
are one place. -/
def directivesUnique (document : Document) : Bool :=
  document.all fun definition =>
    document.noneRepeated (document.directivesAround definition)
      && definition.innerUses.all fun use => document.noneRepeated use.directives

/-- Are the arguments of a directive known, given once, and all given that must be? -/
def argumentsFit (definition : DirectiveDef) (directive : Directive) : Bool :=
  let given := directive.arguments.map Prod.fst
  let known := definition.arguments.map InputValueDef.name
  given.all known.contains && definition.arguments.all fun argument =>
    !argument.isRequired || given.contains argument.name

/-- The arguments of every directive fit its definition. -/
def directiveArgumentsFit (document : Document) : Bool :=
  document.directiveUses.all fun use =>
    use.directives.all fun directive =>
      allDistinct (directive.arguments.map Prod.fst)
        && match document.directive? directive.name with
          | some definition => argumentsFit definition directive
          | none => true

/-! ## Rules about names -/

/-- The operation types that the schema and its extensions name, in order. -/
def rootOperations (document : Document) : List OperationType :=
  (document.schemas ++ document.schemaExtensions).flatMap fun schema => schema.roots.map Prod.fst

/-- There is at most one schema definition, and each operation has at most one root type. -/
def schemaUnique (document : Document) : Bool :=
  document.schemas.length ≤ 1 && allDistinct document.rootOperations

/-- The names of the fields or values that a type body defines. -/
def memberNames : TypeBody → List String
  | .object _ fields => fields.map FieldDef.name
  | .interface _ fields => fields.map FieldDef.name
  | .enum values => values.map EnumValueDef.name
  | .inputObject fields => fields.map InputValueDef.name
  | _ => []

/-- The argument lists of a type's fields. -/
def argumentLists : TypeBody → List (List InputValueDef)
  | .object _ fields => fields.map FieldDef.arguments
  | .interface _ fields => fields.map FieldDef.arguments
  | _ => []

/-- Types and directives are defined once, and so are the members of a type, extensions included,
and the arguments of a field or directive. -/
def definitionsUnique (document : Document) : Bool :=
  let parts := document.types ++ document.typeExtensions
  allDistinct (document.types.map TypeDef.name)
    && allDistinct (document.directives.map DirectiveDef.name)
    && (parts.all fun part =>
      allDistinct ((parts.filter (·.name == part.name)).flatMap (memberNames ·.body)))
    && (parts.all fun part =>
      (argumentLists part.body).all fun list => allDistinct (list.map InputValueDef.name))
    && document.directives.all fun directive =>
      allDistinct (directive.arguments.map InputValueDef.name)

/-- The types that arguments or input fields use. -/
def valueTypes (values : List InputValueDef) : List String := values.map (·.type.leaf)

/-- The types that fields use. -/
def fieldTypes (fields : List FieldDef) : List String :=
  fields.flatMap fun field => field.type.leaf :: valueTypes field.arguments

/-- The types that a type body uses. -/
def bodyTypes : TypeBody → List String
  | .scalar => []
  | .object interfaces fields => interfaces ++ fieldTypes fields
  | .interface interfaces fields => interfaces ++ fieldTypes fields
  | .union members => members
  | .enum _ => []
  | .inputObject fields => valueTypes fields

mutual

/-- The type conditions in a part of a selection set. -/
def conditions : Selection → List String
  | .field _ _ selections => conditionsOf selections
  | .spread _ => []
  | .inline condition _ selections => condition.toList ++ conditionsOf selections

/-- The type conditions in a selection set. -/
def conditionsOf : List Selection → List String
  | [] => []
  | selection :: rest => conditions selection ++ conditionsOf rest

end

/-- The types that a definition uses where standard types are known. -/
def schemaTypesUsed : Definition → List String
  | .schema definition => definition.roots.map Prod.snd
  | .schemaExtension definition => definition.roots.map Prod.snd
  | .type definition => bodyTypes definition.body
  | .typeExtension definition => bodyTypes definition.body
  | .directive definition => valueTypes definition.arguments
  | _ => []

/-- The types that a definition uses where only the document's own types are known. -/
def operationTypesUsed : Definition → List String
  | .operation definition =>
    definition.variableDefs.map (·.type.leaf) ++ conditionsOf definition.selections
  | .fragment definition => definition.condition :: conditionsOf definition.selections
  | _ => []

/-- Every type that is used is known where it is used. -/
def typesKnown (document : Document) : Bool :=
  let own := document.types.map TypeDef.name
  let known := own ++ Standard.types.map TypeDef.name
  document.all fun definition =>
    (schemaTypesUsed definition).all known.contains
      && (operationTypesUsed definition).all own.contains

/-- Extensions of types extend a type of the same kind that the document defines. Those of
directives may extend any, or none. -/
def extensionsFit (document : Document) : Bool :=
  document.typeExtensions.all fun part =>
    match document.types.find? (·.name == part.name) with
    | some type => type.body.location == part.body.location
    | none => false

/-! ## Rules about values -/

mutual

/-- Do the object literals inside a value name each field once? -/
def fieldsDistinct : Literal → Bool
  | .list items => itemsDistinct items
  | .object fields => allDistinct (fields.map Prod.fst) && membersDistinct fields
  | _ => true

/-- Do the object literals inside the values name each field once? -/
def itemsDistinct : List Literal → Bool
  | [] => true
  | item :: rest => fieldsDistinct item && itemsDistinct rest

/-- Do the object literals inside the named values name each field once? -/
def membersDistinct : List (String × Literal) → Bool
  | [] => true
  | (_, value) :: rest => fieldsDistinct value && membersDistinct rest

end

mutual

/-- The argument lists in a part of a selection set. -/
def argumentsOf : Selection → List (List NamedLiteral)
  | .field arguments _ selections => arguments :: argumentsOfAll selections
  | .spread _ => []
  | .inline _ _ selections => argumentsOfAll selections

/-- The argument lists in a selection set. -/
def argumentsOfAll : List Selection → List (List NamedLiteral)
  | [] => []
  | selection :: rest => argumentsOf selection ++ argumentsOfAll rest

end

/-- The selection set of an operation or fragment. -/
def selectionsOf : Definition → List Selection
  | .operation definition => definition.selections
  | .fragment definition => definition.selections
  | _ => []

/-- The default values of arguments or input fields. -/
def defaultsOf (values : List InputValueDef) : List Literal :=
  values.filterMap InputValueDef.default

/-- The default values in a definition. -/
def defaultValues : Definition → List Literal
  | .type definition => bodyDefaults definition.body
  | .typeExtension definition => bodyDefaults definition.body
  | .directive definition => defaultsOf definition.arguments
  | .operation definition => definition.variableDefs.filterMap VariableDef.default
  | _ => []
where
  /-- The default values in a type body. -/
  bodyDefaults : TypeBody → List Literal
    | .inputObject fields => defaultsOf fields
    | body => (argumentLists body).flatMap defaultsOf

/-- Fields are given each argument once, and object literals name each field once. -/
def valuesDistinct (document : Document) : Bool :=
  let fieldArguments := document.flatMap fun definition =>
    argumentsOfAll (selectionsOf definition)
  let directiveArguments := document.directiveUses.flatMap fun use =>
    use.directives.map Directive.arguments
  (fieldArguments.all fun arguments => allDistinct (arguments.map Prod.fst))
    && ((fieldArguments ++ directiveArguments).all fun arguments =>
      arguments.all fun argument => fieldsDistinct argument.2)
    && document.all fun definition => (defaultValues definition).all fieldsDistinct

/-- Does the document break none of the rules? -/
def isWellFormed (document : Document) : Bool :=
  document.schemaUnique && document.definitionsUnique && document.typesKnown
    && document.directivesKnown && document.directivesUnique && document.extensionsFit
    && document.directiveArgumentsFit && document.valuesDistinct

end Document

end SchemaSemver.Sdl
