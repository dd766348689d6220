/-
SchemaSemver.Version.Marker — version marker files.

A marker is a JSON object with the integer members `major`, `minor` and `patch`, none of them
negative. Other members are ignored. The first component that is wrong, in that order, is the one
that is reported. A text with an integer of too many digits is not judged.
-/
import SchemaSemver.Json.Reader
import SchemaSemver.Version.SemVer

namespace SchemaSemver

/-- What is wrong with a marker. -/
inductive MarkerFault where
  | notJson (message : String)
  | notObject
  | notInteger (component : String)
  | negative (component : String)
deriving DecidableEq, Repr

/-- What is said about a faulty marker. -/
def MarkerFault.message : MarkerFault → String
  | notJson message => "Invalid version marker JSON: " ++ message
  | notObject => "Version marker root must be an object."
  | notInteger component => "Version marker '" ++ component ++ "' must be an integer."
  | negative component => "Version marker '" ++ component ++ "' must not be negative."

/-- Why a text gives no version. -/
inductive MarkerStop where
  | rejected (fault : MarkerFault)
  /-- Reading the text breaks off at an integer with too many digits. -/
  | longInteger
deriving DecidableEq, Repr

namespace SemVer

/-- One component of a marker. -/
def component (members : List Json.Member) (name : String) : Except MarkerFault Int :=
  match Json.findMember name members with
  | some (.integer n) => if n < 0 then .error (.negative name) else .ok n
  | _ => .error (.notInteger name)

/-- The version that a JSON value marks. -/
def ofValue : Json.Value → Except MarkerFault SemVer
  | .object members => do
    let major ← component members "major"
    let minor ← component members "minor"
    let patch ← component members "patch"
    return ⟨major, minor, patch⟩
  | _ => .error .notObject

/-- The version that a marker file holds. -/
def parseMarker (text : String) : Except MarkerStop SemVer :=
  match Json.parse text with
  | .ok value => (ofValue value).mapError .rejected
  | .error (.illFormed message) => .error (.rejected (.notJson message))
  | .error .longInteger => .error .longInteger

end SemVer

end SchemaSemver
