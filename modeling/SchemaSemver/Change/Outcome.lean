/-
SchemaSemver.Change.Outcome — the classification of a change between two schemas.
-/
import SchemaSemver.Schema.Declaration

namespace SchemaSemver

/-- How severe a change is. -/
inductive Bump where
  | major
  | minor
  | patch
deriving DecidableEq, Repr

/-- The bump as it is named in messages. -/
def Bump.label : Bump → String
  | major => "MAJOR"
  | minor => "MINOR"
  | patch => "PATCH"

/-- Why a change has its bump. -/
inductive Reason where
  | removals
  | breakingAdditions
  | additions
  | unchanged
deriving DecidableEq, Repr

/-- The reason as the report states it. -/
def Reason.text : Reason → String
  | removals => "There are removals and/or renames => Major bump found."
  | breakingAdditions =>
    "New union-values, enum-values, input or non-null-input-field => Major bump found."
  | additions => "New fields/types/queries => Minor bump found."
  | unchanged => "No declaration changes => Patch bump found."

/-- The classification, with the declarations that only one of the two schemas has. -/
structure Outcome where
  bump : Bump
  reason : Reason
  removed : List Declaration
  added : List Declaration
  breakingAdditions : List Declaration
deriving DecidableEq, Repr

/-- Did any declaration change? -/
def Outcome.hasChanges (outcome : Outcome) : Bool :=
  !outcome.removed.isEmpty || !outcome.added.isEmpty

end SchemaSemver
