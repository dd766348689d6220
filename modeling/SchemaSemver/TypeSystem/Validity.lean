/-
SchemaSemver.TypeSystem.Validity — what a schema must satisfy.

A schema has a query root; its names do not begin with two underscores; its types have members, use
types where they fit, and implement their interfaces; default values fit their types; and input
objects can be written down in a finite number of steps, with and without their defaults.
-/
import SchemaSemver.TypeSystem.Annotation
import SchemaSemver.TypeSystem.Schema

namespace SchemaSemver.TypeSystem

open Sdl

/-! ## Settling

Two rules ask whether every item of a finite collection can be dealt with when items may wait for
others. Starting with nothing settled, each round settles what waits for settled items only. -/

/-- The items settled after a number of rounds. -/
def settle {α : Type} (items : List α) (isReady : List α → α → Bool) : Nat → List α
  | 0 => []
  | rounds + 1 => items.filter (isReady (settle items isReady rounds))

/-- Is every item settled in the end? -/
def allSettle {α : Type} [BEq α] (items : List α) (isReady : List α → α → Bool) : Bool :=
  let settled := settle items isReady items.length
  items.all settled.contains

namespace Schema

variable (schema : Schema)

/-! ## Kinds of types -/

/-- Can arguments and input fields have the type? -/
def isInputType (name : String) : Bool :=
  match (schema.type? name).map TypeDef.body with
  | some .scalar => true
  | some (.enum _) => true
  | some (.inputObject _) => true
  | _ => false

/-- Can fields have the type? -/
def isOutputType (name : String) : Bool :=
  match (schema.type? name).map TypeDef.body with
  | some (.inputObject _) => false
  | some _ => true
  | none => false

/-- Is the type an object type? -/
def isObjectType (name : String) : Bool :=
  match (schema.type? name).map TypeDef.body with
  | some (.object _ _) => true
  | _ => false

/-- The fields of an input object, if the type is one. -/
def inputFields? (name : String) : Option (List InputValueDef) :=
  match (schema.type? name).map TypeDef.body with
  | some (.inputObject fields) => some fields
  | _ => none

/-- Must exactly one field of the input object be given? -/
def isOneOf (name : String) : Bool :=
  match schema.type? name with
  | some type => type.directives.any (·.name == "oneOf")
  | none => false

/-! ## Default values -/

/-- Does the text spell an integer of 32 bits? -/
def isInt32 (text : String) : Bool :=
  match text.toInt? with
  | some n => -2147483648 ≤ n && n ≤ 2147483647
  | none => false

/-- Does the built-in scalar accept the value? Other scalars accept every value. -/
def scalarAccepts (name : String) (value : Literal) : Bool :=
  match name, value with
  | "Int", .integer text => isInt32 text
  | "Int", _ => false
  | "Float", .integer _ => true
  | "Float", .float _ => true
  | "Float", _ => false
  | "String", .string _ => true
  | "String", _ => false
  | "Boolean", .boolean _ => true
  | "Boolean", _ => false
  | "ID", .string _ => true
  | "ID", .integer _ => true
  | "ID", _ => false
  | _, _ => true

/-- Does the scalar or enum accept a value that is neither null nor an object? -/
def leafAccepts (name : String) (value : Literal) : Bool :=
  match (schema.type? name).map TypeDef.body, value with
  | some .scalar, value => scalarAccepts name value
  | some (.enum values), .enumValue given => values.any (·.name == given)
  | _, _ => false

/-- Is a value the null? -/
def isNull : Literal → Bool
  | .null => true
  | _ => false

/-- Are the required fields of an input object given, and exactly one field where only one may
be? -/
def fieldsComplete (name : String) (fields : List InputValueDef)
    (given : List (String × Literal)) : Bool :=
  (fields.all fun field => !field.isRequired || (given.map Prod.fst).contains field.name)
    && (!schema.isOneOf name ||
      match given with
      | [(_, value)] => !isNull value
      | _ => false)

/-- The type without a non-null mark around it. -/
def nullable : TypeExpr → TypeExpr
  | .nonNull item => nullable item
  | type => type

mutual

/-- Does the type accept the value? A value that is no list may stand for a list of that one. -/
def accepts (type : TypeExpr) : Literal → Bool
  | .null => !type.isNonNull
  | .list items =>
    match nullable type with
    | .list item => itemsAccepted item items
    | .named name => leafAccepts schema name (.list items)
    | .nonNull _ => false
  | .object fields =>
    match schema.inputFields? type.leaf with
    | some known =>
      fieldsAccepted known fields && schema.fieldsComplete type.leaf known fields
    | none => leafAccepts schema type.leaf (.object fields)
  | value => leafAccepts schema type.leaf value

/-- Does the item type accept every item? -/
def itemsAccepted (item : TypeExpr) : List Literal → Bool
  | [] => true
  | value :: rest => accepts item value && itemsAccepted item rest

/-- Is every given field known, and its value accepted? -/
def fieldsAccepted (known : List InputValueDef) : List (String × Literal) → Bool
  | [] => true
  | (name, value) :: rest =>
    (match known.find? fun field => field.name == name with
      | some field => accepts field.type value
      | none => false) && fieldsAccepted known rest

end

/-! ## Members -/

/-- May a definition have the name? -/
def isFreeName (name : String) : Bool := !"__".toList.isPrefixOf name.toList

/-- Is the argument or input field in order: its name free, its type an input type, its default
fitting, and not deprecated while it must be given? -/
def valueValid (value : InputValueDef) : Bool :=
  isFreeName value.name && schema.isInputType value.type.leaf
    && !(value.isRequired && isDeprecated value.directives)
    && match value.default with
      | some literal => schema.accepts value.type literal
      | none => true

/-- Is the output field in order? -/
def fieldValid (field : FieldDef) : Bool :=
  isFreeName field.name && schema.isOutputType field.type.leaf
    && field.arguments.all schema.valueValid

/-! ## Interfaces -/

/-- Is one named type the other, a member of that union, or an implementation of that interface? -/
def isSubtypeName (name super : String) : Bool :=
  name == super ||
    match (schema.type? super).map TypeDef.body, (schema.type? name).map TypeDef.body with
    | some (.union members), _ => members.contains name
    | some (.interface _ _), some (.object interfaces _) => interfaces.contains super
    | some (.interface _ _), some (.interface interfaces _) => interfaces.contains super
    | _, _ => false

/-- Is every value of one type a value of the other? -/
def isSubtype : TypeExpr → TypeExpr → Bool
  | .nonNull sub, .nonNull super => isSubtype sub super
  | .nonNull sub, super => isSubtype sub super
  | .list sub, .list super => isSubtype sub super
  | .named sub, .named super => schema.isSubtypeName sub super
  | _, _ => false

/-- Do the arguments of a field fit the field of the interface: the interface's are all there with
the same type, and any others may be left out? -/
def argumentsImplement (own wanted : List InputValueDef) : Bool :=
  (wanted.all fun argument =>
    match own.find? (·.name == argument.name) with
    | some found => found.type == argument.type
    | none => false)
    && own.all fun argument =>
      (wanted.any (·.name == argument.name)) || !argument.isRequired

/-- Is there a field that fits the one of the interface? It may be deprecated only if that one
is. -/
def fieldImplemented (fields : List FieldDef) (wanted : FieldDef) : Bool :=
  match fields.find? (·.name == wanted.name) with
  | some found =>
    schema.isSubtype found.type wanted.type
      && argumentsImplement found.arguments wanted.arguments
      && (!isDeprecated found.directives || isDeprecated wanted.directives)
  | none => false

/-- Does the type implement the interface: another type, an interface, whose own interfaces are
implemented too and whose fields are all there? -/
def interfaceImplemented (type : String) (interfaces : List String) (fields : List FieldDef)
    (name : String) : Bool :=
  name != type &&
    match (schema.type? name).map TypeDef.body with
    | some (.interface ancestors wanted) =>
      ancestors.all interfaces.contains && wanted.all (schema.fieldImplemented fields)
    | _ => false

/-! ## Types -/

/-- Are the fields and interfaces of an object or interface type in order? -/
def compositeValid (type : String) (interfaces : List String) (fields : List FieldDef) : Bool :=
  !fields.isEmpty && fields.all schema.fieldValid && allDistinct interfaces
    && interfaces.all (schema.interfaceImplemented type interfaces fields)

/-- Is the field of an input object with exactly one given field in order? -/
def oneOfFieldValid (field : InputValueDef) : Bool :=
  !field.type.isNonNull && field.default.isNone

/-- Is a type that is not a standard one in order? -/
def typeValid (type : TypeDef) : Bool :=
  isFreeName type.name &&
    match type.body with
    | .scalar => true
    | .object interfaces fields => schema.compositeValid type.name interfaces fields
    | .interface interfaces fields => schema.compositeValid type.name interfaces fields
    | .union members =>
      !members.isEmpty && allDistinct members && members.all schema.isObjectType
    | .enum values => !values.isEmpty && values.all fun value => isFreeName value.name
    | .inputObject fields =>
      !fields.isEmpty && fields.all schema.valueValid
        && (!schema.isOneOf type.name || fields.all oneOfFieldValid)

/-- Is a directive in order? -/
def directiveValid (directive : DirectiveDef) : Bool :=
  isFreeName directive.name && directive.arguments.all schema.valueValid

/-- Is there a query root, and are the roots different object types? -/
def rootsValid : Bool :=
  (schema.roots.any (·.1 == .query)) && (schema.roots.map Prod.snd).all schema.isObjectType
    && allDistinct (schema.roots.map Prod.snd)

/-! ## Finite input objects -/

/-- The names of the input objects. -/
def inputObjects : List String :=
  schema.types.filterMap fun type =>
    match type.body with
    | .inputObject _ => some type.name
    | _ => none

/-- Can the value of a field be written down, given the input objects that can be? A list may be
empty. -/
def canFill (finite : List String) : TypeExpr → Bool
  | .named name => (schema.inputFields? name).isNone || finite.contains name
  | .nonNull item => canFill finite item
  | .list _ => true

/-- Can some value of the input object be written down? Fields that may be null may be left out,
except where exactly one must be given. -/
def isFinite (finite : List String) (name : String) : Bool :=
  match schema.inputFields? name with
  | some fields =>
    if schema.isOneOf name then fields.any fun field => schema.canFill finite field.type
    else fields.all fun field => !field.type.isNonNull || schema.canFill finite field.type
  | none => true

/-! ## Default values without end -/

/-- A field of an input object: the object's name and the field's. -/
abbrev FieldKey := String × String

/-- The fields with a default value that come into play when the fields given are left as they
are. -/
def missingDefaults (type : String) (given : List String) : List FieldKey :=
  ((schema.inputFields? type).getD []).filterMap fun field =>
    if given.contains field.name || field.default.isNone
        || (schema.inputFields? field.type.leaf).isNone then none
    else some (type, field.name)

mutual

/-- The fields whose default values complete a value of an input object. -/
def defaultsUsed (type : String) : Literal → List FieldKey
  | .list items => defaultsUsedByItems type items
  | .object fields =>
    schema.missingDefaults type (fields.map Prod.fst) ++ defaultsUsedByFields type fields
  | _ => []

/-- The fields whose default values complete the values of a list. -/
def defaultsUsedByItems (type : String) : List Literal → List FieldKey
  | [] => []
  | item :: rest => defaultsUsed type item ++ defaultsUsedByItems type rest

/-- The fields whose default values complete the given fields of an input object. -/
def defaultsUsedByFields (type : String) : List (String × Literal) → List FieldKey
  | [] => []
  | (name, value) :: rest =>
    (match ((schema.inputFields? type).getD []).find? (·.name == name) with
      | some field =>
        if (schema.inputFields? field.type.leaf).isSome then
          defaultsUsed field.type.leaf value
        else []
      | none => []) ++ defaultsUsedByFields type rest

end

/-- All input fields of an input object type that have a default value. -/
def defaultedFields : List FieldKey :=
  schema.inputObjects.flatMap fun type => schema.missingDefaults type []

/-- Does the default value of a field come to an end, given the fields whose default values do? -/
def defaultEnds (ended : List FieldKey) (key : FieldKey) : Bool :=
  match ((schema.inputFields? key.1).getD []).find? (·.name == key.2) with
  | some field =>
    match field.default with
    | some value => (schema.defaultsUsed field.type.leaf value).all ended.contains
    | none => true
  | none => true

/-! ## Schemas -/

/-- Does the schema satisfy all of this? -/
def isValid : Bool :=
  schema.rootsValid && schema.directives.all schema.directiveValid
    && (schema.types.all fun type =>
      (Standard.type? type.name).isSome || schema.typeValid type)
    && allSettle schema.inputObjects schema.isFinite
    && allSettle schema.defaultedFields schema.defaultEnds

end Schema

end SchemaSemver.TypeSystem
