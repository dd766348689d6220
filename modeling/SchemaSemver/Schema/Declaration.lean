/-
SchemaSemver.Schema.Declaration — the comparable facts about the shape of a schema.

A declaration is a path (`User` or `User.email`) with a signature. Two declarations are the same
fact in two schemas when path and signature agree; that pair is the declaration's identity. The
parent says whether adding the declaration to an already existing type breaks its users.
-/

namespace SchemaSemver

/-- One fact about a schema. -/
structure Declaration where
  path : String
  signature : String
  parent : String
deriving DecidableEq, Repr

namespace Declaration

/-- The mark that stands in place of a parent; it is no GraphQL name. -/
def noParent : String := "@"

/-- What two schemas must agree on for the declaration to be in both. -/
def identity (declaration : Declaration) : String × String :=
  (declaration.path, declaration.signature)

/-- Does adding the declaration to an existing parent break users of that parent? -/
def isParentSensitive (declaration : Declaration) : Bool :=
  declaration.parent != noParent

end Declaration

/-- The two places where a schema can hold something without a comparison policy. -/
inductive UnsupportedCategory where
  | type
  | fieldType
deriving DecidableEq, Repr

/-- The category as it is named in messages. -/
def UnsupportedCategory.label : UnsupportedCategory → String
  | type => "type"
  | fieldType => "field type"

/-- A type, or the type of a field, of a kind that has no comparison policy. -/
structure Unsupported where
  category : UnsupportedCategory
  owner : String
  kind : String
deriving DecidableEq, Repr

/-- What is said about an unsupported construct. -/
def Unsupported.describe (construct : Unsupported) : String :=
  "Unsupported " ++ construct.category.label ++ " '" ++ construct.kind ++ "' at " ++ construct.owner

end SchemaSemver
