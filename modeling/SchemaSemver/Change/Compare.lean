/-
SchemaSemver.Change.Compare — comparing two lists of declarations.

Declarations are matched by identity (path and signature) alone, so a renamed or retyped member
shows as one removal and one addition. Any removal is a major change. Without removals, an addition
is major when it is parent-sensitive and its parent type is not itself added by the same change;
other additions are minor, and no change at all is a patch.
-/
import SchemaSemver.Change.Outcome

namespace SchemaSemver

/-- The declarations without an equal identity on the other side, in order. -/
def unmatched (declarations counterpart : List Declaration) : List Declaration :=
  let known := counterpart.map Declaration.identity
  declarations.filter fun declaration => !known.contains declaration.identity

/-- The parent-sensitive additions whose parent type is not added along with them. -/
def breakingAmong (added : List Declaration) : List Declaration :=
  let paths := added.map Declaration.path
  added.filter fun declaration =>
    declaration.isParentSensitive && !paths.contains declaration.parent

/-- The classification of given removals and additions. -/
def Outcome.ofParts (removed added : List Declaration) : Outcome :=
  if !removed.isEmpty then
    ⟨.major, .removals, removed, added, []⟩
  else if !added.isEmpty then
    let breaking := breakingAmong added
    if !breaking.isEmpty then
      ⟨.major, .breakingAdditions, [], added, breaking⟩
    else
      ⟨.minor, .additions, [], added, []⟩
  else
    ⟨.patch, .unchanged, [], [], []⟩

/-- The classification of the change from one list of declarations to another. -/
def compareDeclarations (before after : List Declaration) : Outcome :=
  Outcome.ofParts (unmatched before after) (unmatched after before)

end SchemaSemver
