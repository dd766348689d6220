/-
SchemaSemver.Check.Failure — why a check cannot be completed.

Each cause has a message, an exit status, and details that are printed below the message.
-/
import SchemaSemver.Check.ExitStatus
import SchemaSemver.Revision.Read
import SchemaSemver.Schema.OfText
import SchemaSemver.Version.Marker

namespace SchemaSemver

/-- The two revisions that a check compares. -/
inductive Side where
  | base
  | head
deriving DecidableEq, Repr

/-- The side as it is named in messages. -/
def Side.label : Side → String
  | base => "base"
  | head => "head"

/-- A cause that ends a check early. -/
inductive CheckFailure where
  /-- The probe failed with a message. -/
  | probeError (message : String)
  /-- The tool that the store needs is missing. -/
  | toolMissing
  /-- There is no store. -/
  | notAStore
  /-- The probe could not say what is wrong. -/
  | probeFailed
  /-- A schema could not be read. -/
  | schemaUnreadable (side : Side) (location : String) (detail : Option String)
  /-- A version marker was read but is no marker. -/
  | invalidMarker (location : String) (fault : MarkerFault)
  /-- A schema was read but is rejected. -/
  | invalidSchema (side : Side) (fault : SchemaFault)
  /-- A schema holds constructs without a comparison policy. -/
  | unsupported (side : Side) (first : Unsupported) (rest : List Unsupported)
deriving DecidableEq, Repr

/-- Why a check breaks off, so that nothing is said about it. -/
inductive CheckBreak where
  /-- A file was read, and its bytes cannot be taken as a text or refused as none. -/
  | reading (ref path : String) (cause : Text.DecodeBreak)
  /-- A version marker was read, and an integer in it has too many digits. -/
  | marker (location : String)
deriving DecidableEq, Repr

/-- Why a check has no verdict. -/
inductive CheckFault where
  | failed (failure : CheckFailure)
  | broken (cause : CheckBreak)
deriving DecidableEq, Repr

namespace CheckFailure

/-- What is said about the failure. -/
def message : CheckFailure → String
  | probeError message => message
  | toolMissing => "You need git for this to work."
  | notAStore => "You need to be inside a git repository."
  | probeFailed => "Unexpected git error."
  | schemaUnreadable _ location _ => "Unable to retrieve \"" ++ location ++ "\" file."
  | invalidMarker location fault =>
    "Invalid version marker \"" ++ location ++ "\": " ++ fault.message
  | invalidSchema side fault => side.label ++ " schema: " ++ fault.message
  | unsupported side first _ => side.label ++ " schema: " ++ first.describe

/-- How the failure ends a run. -/
def status : CheckFailure → ExitStatus
  | probeError _ => .probeError
  | toolMissing => .toolMissing
  | notAStore => .notAStore
  | probeFailed => .probeFailed
  | schemaUnreadable .base _ _ => .baseSchemaUnreadable
  | schemaUnreadable .head _ _ => .headSchemaUnreadable
  | invalidMarker _ _ => .invalidMarker
  | invalidSchema _ _ => .invalidSchema
  | unsupported _ first _ =>
    match first.category with
    | .type => .unsupportedType
    | .fieldType => .unsupportedFieldType

/-- The lines that explain the failure. -/
def details : CheckFailure → List String
  | schemaUnreadable _ _ detail => detail.toList
  | unsupported _ first rest => (first :: rest).map Unsupported.describe
  | _ => []

end CheckFailure

end SchemaSemver
