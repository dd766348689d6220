/-
SchemaSemver.Version.SemVer — version triples.
-/
import SchemaSemver.Text.DecimalDigit

namespace SchemaSemver

/-- A version `major.minor.patch`. Markers hold no negative component, but the arithmetic does not
depend on that. -/
structure SemVer where
  major : Int
  minor : Int
  patch : Int
deriving DecidableEq, Repr

namespace SemVer

/-- The version with its components separated by dots. -/
def text (version : SemVer) : String :=
  toString version.major ++ "." ++ toString version.minor ++ "." ++ toString version.patch

/-- Does a component have too many digits to be written? -/
def isLong (version : SemVer) : Bool :=
  Text.isLong version.major || Text.isLong version.minor || Text.isLong version.patch

/-- What a missing marker stands for. -/
def initial : SemVer := ⟨0, 0, 0⟩

/-- The first stable version. -/
def stableFloor : SemVer := ⟨1, 0, 0⟩

end SemVer

end SchemaSemver
