/-
SchemaSemver.Introspection.Projection — from an introspection answer to type definitions.

The answer is a JSON value of any shape. Only the keys that the comparison policy needs are read: a
type's kind decides which of its member lists count, and everything else in the answer is ignored.
A shape that is not the one of an introspection answer is rejected with the place where it was
found. Two shapes are not rejected but break the reading off: an interface list that is a number or
a truth value, and a possible type that is not an object.
-/
import SchemaSemver.Json.Display
import SchemaSemver.Schema.Definition

namespace SchemaSemver

open Json (Value findMember)

/-! ## What can be wrong -/

/-- Why an introspection answer is rejected. -/
inductive Rejection where
  | noSchemaObject
  | typesNotList
  | typeNotObject
  | referenceNotObject (owner : String)
  | notList (label : String)
  | notObject (label : String)
  | nameless (label : String)
deriving DecidableEq, Repr

/-- What is said about a rejected answer. -/
def Rejection.message : Rejection → String
  | noSchemaObject => "Introspection result must contain a __schema object."
  | typesNotList => "Introspection __schema.types must be a list."
  | typeNotObject => "Introspected types must be objects."
  | referenceNotObject owner => "Type reference of " ++ owner ++ " must be an object."
  | notList label => "Introspection " ++ label ++ " must be a list."
  | notObject label => "Introspected " ++ label ++ " must be an object."
  | nameless label => "Introspected " ++ label ++ " requires a name."

/-- Why no definitions come out of an introspection answer. -/
inductive ProjectionFault where
  /-- The answer is not one of introspection. -/
  | rejected (reason : Rejection)
  /-- The interfaces of a type are a value that has no items. -/
  | interfacesWithoutItems
  /-- A possible type is a value that has no members. -/
  | possibleTypeWithoutMembers
deriving DecidableEq, Repr

/-- What projecting a part of an answer gives. -/
abbrev Projected (α : Type) := Except ProjectionFault α

namespace Introspection

/-- A rejection as the result of projecting. -/
def reject {α : Type} (reason : Rejection) : Projected α := .error (.rejected reason)

/-! ## Parts of every object -/

/-- The name that the members give: a text of at least one character. -/
def nameOfMembers (label : String) (members : List Json.Member) : Projected String :=
  match findMember "name" members with
  | some (.string name) => if name.isEmpty then reject (.nameless label) else .ok name
  | _ => reject (.nameless label)

/-- The name of an object; `label` says what the object should be. -/
def requireName (label : String) : Value → Projected String
  | .object members => nameOfMembers label members
  | _ => reject (.notObject label)

/-- The items of a list that may be missing or null. -/
def listItems (label : String) : Option Value → Projected (List Value)
  | none => .ok []
  | some .null => .ok []
  | some (.array items) => .ok items
  | some _ => reject (.notList label)

/-- The text of a kind; a missing kind is a null one. -/
def kindText (members : List Json.Member) : String :=
  ((findMember "kind" members).getD .null).display

/-- Is the kind the given word? Only a text can be one. -/
def hasKind (members : List Json.Member) (word : String) : Bool :=
  match findMember "kind" members with
  | some (.string kind) => kind == word
  | _ => false

/-! ## Type references -/

mutual

/-- The type reference that a value spells. -/
def projectRef (owner : String) : Value → Projected TypeRef
  | .object members =>
    if hasKind members "NON_NULL" then
      (projectInner owner members).map .nonNull
    else if hasKind members "LIST" then
      (projectInner owner members).map .list
    else
      (nameOfMembers (owner ++ " type reference") members).map (.named (kindText members))
  | _ => reject (.referenceNotObject owner)

/-- The reference inside a wrapper. -/
def projectInner (owner : String) : List (String × Value) → Projected TypeRef
  | [] => reject (.referenceNotObject owner)
  | (name, value) :: rest =>
    if name = "ofType" then projectRef owner value else projectInner owner rest

end

/-- The type reference of a field or argument; a missing one is a null one. -/
def projectTypeMember (owner : String) (members : List Json.Member) : Projected TypeRef :=
  projectRef owner ((findMember "type" members).getD .null)

/-! ## Members of types -/

/-- An argument or input field. -/
def projectInputValue (owner : String) : Value → Projected InputValue
  | .object members => do
    let name ← nameOfMembers (owner ++ " input value") members
    let type ← projectTypeMember (owner ++ "." ++ name) members
    return ⟨name, type⟩
  | _ => reject (.notObject (owner ++ " input value"))

/-- An output field, its arguments before its type. -/
def projectField (typeName : String) : Value → Projected Field
  | .object members => do
    let name ← nameOfMembers (typeName ++ " field") members
    let owner := typeName ++ "." ++ name
    let rawArguments ← listItems owner (findMember "args" members)
    let arguments ← rawArguments.mapM (projectInputValue owner)
    let type ← projectTypeMember owner members
    return ⟨name, type, arguments⟩
  | _ => reject (.notObject (typeName ++ " field"))

/-- A member of a union or an implementation of an interface. -/
def projectPossibleType (typeName : String) : Value → Projected PossibleType
  | .object members => do
    let name ← nameOfMembers (typeName ++ " member") members
    return ⟨kindText members, name⟩
  | _ => .error .possibleTypeWithoutMembers

/-! ## Member lists -/

/-- The names of the interfaces; an empty value stands for none. The characters of a text and the
names of an object's members are items that are not objects. -/
def projectInterfaces (members : List Json.Member) : Projected (List String) :=
  match findMember "interfaces" members with
  | none => .ok []
  | some value =>
    if value.isEmpty then .ok []
    else
      match value with
      | .array items => items.mapM (requireName "interface")
      | .string _ => reject (.notObject "interface")
      | .object _ => reject (.notObject "interface")
      | _ => .error .interfacesWithoutItems

/-- The output fields. -/
def projectFields (typeName : String) (members : List Json.Member) : Projected (List Field) := do
  let items ← listItems (typeName ++ ".fields") (findMember "fields" members)
  items.mapM (projectField typeName)

/-- The possible types. -/
def projectPossibleTypes (typeName : String) (members : List Json.Member) :
    Projected (List PossibleType) := do
  let items ← listItems (typeName ++ ".possibleTypes") (findMember "possibleTypes" members)
  items.mapM (projectPossibleType typeName)

/-- The enum values. -/
def projectEnumValues (typeName : String) (members : List Json.Member) :
    Projected (List String) := do
  let items ← listItems (typeName ++ ".enumValues") (findMember "enumValues" members)
  items.mapM (requireName (typeName ++ " enum value"))

/-- The input fields. -/
def projectInputFields (typeName : String) (members : List Json.Member) :
    Projected (List InputValue) := do
  let items ← listItems (typeName ++ ".inputFields") (findMember "inputFields" members)
  items.mapM (projectInputValue typeName)

/-! ## Types and answers -/

/-- A type whose name is known already. -/
def projectNamedType (name : String) (members : List Json.Member) : Projected TypeDefinition :=
  if hasKind members "SCALAR" then
    .ok (.scalar name)
  else if hasKind members "OBJECT" then do
    let interfaces ← projectInterfaces members
    let fields ← projectFields name members
    return .object name interfaces fields
  else if hasKind members "INTERFACE" then do
    let interfaces ← projectInterfaces members
    let fields ← projectFields name members
    let possibleTypes ← projectPossibleTypes name members
    return .interface name interfaces fields possibleTypes
  else if hasKind members "UNION" then
    (projectPossibleTypes name members).map (.union name)
  else if hasKind members "ENUM" then
    (projectEnumValues name members).map (.enum name)
  else if hasKind members "INPUT_OBJECT" then
    (projectInputFields name members).map (.inputObject name)
  else
    .ok (.unrecognised name (kindText members))

/-- One type of the answer. -/
def projectType : Value → Projected TypeDefinition
  | .object members => do
    let name ← nameOfMembers "type" members
    projectNamedType name members
  | _ => reject .typeNotObject

/-- The types that an answer lists; an empty value stands for none, and the characters of a text are
items that are not types. -/
def answeredTypes (schema : List Json.Member) : Projected (List Value) :=
  match findMember "types" schema with
  | none => .ok []
  | some value =>
    if value.isEmpty then .ok []
    else
      match value with
      | .array items => .ok items
      | .string _ => reject .typeNotObject
      | _ => reject .typesNotList

/-- One definition per type of an introspection answer, in the order of the answer. -/
def projectDefinitions (answer : Value) : Projected (List TypeDefinition) :=
  match answer.get? "__schema" with
  | some (.object schema) => do
    let types ← answeredTypes schema
    types.mapM projectType
  | _ => reject .noSchemaObject

end Introspection

end SchemaSemver
