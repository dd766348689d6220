/-
SchemaSemver.Version.Policy — which version a change calls for.

A bump raises its own component and clears the lower ones; afterwards every version before 1.0.0 is
raised to exactly 1.0.0. Identical schema texts call for no bump, but the floor still applies.
-/
import SchemaSemver.Version.SemVer
import SchemaSemver.Change.Outcome

namespace SchemaSemver.SemVer

/-- The version that follows a change of the given severity. -/
def bumped (version : SemVer) : Bump → SemVer
  | .major => ⟨version.major + 1, 0, 0⟩
  | .minor => ⟨version.major, version.minor + 1, 0⟩
  | .patch => ⟨version.major, version.minor, version.patch + 1⟩

/-- A version before the first stable one becomes the first stable one. -/
def floored (version : SemVer) : SemVer :=
  if version.major ≤ 0 then stableFloor else version

/-- The version expected after a change, or after none. -/
def expectedAfter (version : SemVer) (bump : Option Bump) : SemVer :=
  match bump with
  | none => version.floored
  | some bump => (version.bumped bump).floored

end SchemaSemver.SemVer
