/-
SchemaSemver.Schema.TypeRef — references to types, and their signatures.

A reference is a named type under any nesting of list and non-null wrappers. Its signature is its
GraphQL spelling: `[User!]` for a list of non-null users. Two kinds of named type have no signature
in a comparison, interfaces and kinds that GraphQL does not know, and a reference that ends in one
of them is reported instead of being spelled.
-/
import SchemaSemver.Text.Joined

namespace SchemaSemver

/-! ## References -/

/-- A reference to a type, outermost wrapper first; `kind` is the word introspection uses. -/
inductive TypeRef where
  | named (kind name : String)
  | list (item : TypeRef)
  | nonNull (item : TypeRef)
deriving DecidableEq, Repr

/-- The named type at the end of a reference. -/
structure NamedType where
  kind : String
  name : String
deriving DecidableEq, Repr

namespace TypeRef

/-- The named type that the wrappers stand around. -/
def leaf : TypeRef → NamedType
  | named kind name => ⟨kind, name⟩
  | list item => item.leaf
  | nonNull item => item.leaf

/-- Is the outermost wrapper the non-null one? -/
def isNonNull : TypeRef → Bool
  | nonNull _ => true
  | _ => false

end TypeRef

/-! ## Signatures -/

/-- The kinds of named type that a signature may end in. -/
def supportedKinds : List String := ["SCALAR", "UNION", "ENUM", "OBJECT", "INPUT_OBJECT"]

/-- A reference has no signature because it ends in a named type of another kind. -/
structure UnsupportedKind where
  type : NamedType
deriving DecidableEq, Repr

/-- What is said about a reference without a signature. -/
def UnsupportedKind.message (fault : UnsupportedKind) : String :=
  "Unsupported field type kind: " ++ fault.type.kind ++ " (" ++ fault.type.name ++ ")"

/-- The GraphQL spelling of a reference, if its leaf has a supported kind. -/
def TypeRef.signature : TypeRef → Except UnsupportedKind String
  | named kind name =>
    if kind ∈ supportedKinds then .ok name else .error ⟨⟨kind, name⟩⟩
  | list item => item.signature.map fun text => "[" ++ text ++ "]"
  | nonNull item => item.signature.map fun text => text ++ "!"

/-- An argument of a field, or a field of an input object. -/
structure InputValue where
  name : String
  type : TypeRef
deriving DecidableEq, Repr

namespace InputValue

/-- The argument as it stands in an argument list: `name: Type`. -/
def signature (value : InputValue) : Except UnsupportedKind String :=
  value.type.signature.map fun text => value.name ++ ": " ++ text

/-- The arguments one by one; the first one without a signature is the fault of all. -/
def signatures : List InputValue → Except UnsupportedKind (List String)
  | [] => .ok []
  | value :: rest => do
    let text ← value.signature
    let texts ← signatures rest
    return text :: texts

/-- An argument list in front of a result type: nothing for no arguments, else
`(a: Int,b: ID!) => `. -/
def listSignature (values : List InputValue) : Except UnsupportedKind String :=
  match values with
  | [] => .ok ""
  | _ => (signatures values).map fun texts => "(" ++ Text.joinWith "," texts ++ ") => "

end InputValue

end SchemaSemver
