/-
SchemaSemver.Check.Run — one check of a head revision against a base revision.

A check goes through its stages in a fixed order and stops at the first that fails: the store is
probed, the two schemas and the two version markers are read, the markers give versions, and the
schemas, if their texts differ, are compared. The head version is right when it is the version that
the change calls for. A marker that cannot be read counts as version 0.0.0.
-/
import SchemaSemver.Change.Compare
import SchemaSemver.Check.Failure
import SchemaSemver.Log
import SchemaSemver.Version.Policy

namespace SchemaSemver

/-! ## Results with a log -/

/-- A result together with what was read, revision and path, and what was logged on the way. -/
structure Logged (α : Type) where
  reads : List (String × String)
  log : List LogEntry
  result : Except CheckFault α

namespace Logged

/-- A result without a log. -/
def ofResult {α : Type} (result : Except CheckFault α) : Logged α := ⟨[], [], result⟩

/-- Goes on with a result; the log of what follows comes after, and a failure ends both. -/
def andThen {α β : Type} (first : Logged α) (next : α → Logged β) : Logged β :=
  match first.result with
  | .ok value =>
    ⟨first.reads ++ (next value).reads, first.log ++ (next value).log, (next value).result⟩
  | .error failure => ⟨first.reads, first.log, .error failure⟩

instance : Monad Logged where
  pure value := ofResult (.ok value)
  bind := andThen

/-- Logs an entry. -/
def tell (entry : LogEntry) : Logged Unit := ⟨[], [entry], .ok ()⟩

/-- Asks for a file. -/
def ask {α : Type} (reader : String → String → α) (ref path : String) : Logged α :=
  ⟨[(ref, path)], [], .ok (reader ref path)⟩

theorem result_pure {α : Type} (value : α) : (pure value : Logged α).result = .ok value := rfl

theorem result_bind {α β : Type} (first : Logged α) (next : α → Logged β) :
    (first >>= next).result = first.result >>= fun value => (next value).result := by
  show (andThen first next).result = _
  unfold andThen
  cases first.result <;> rfl

end Logged

/-! ## What is checked -/

/-- The revisions and files of a check. -/
structure CheckRequest where
  baseRef : String
  headRef : String
  schemaFile : String
  markerFile : String
deriving DecidableEq, Repr

/-- The answers for the files that a check reads. -/
structure Artifacts where
  baseSchema : RevisionRead
  headSchema : RevisionRead
  baseMarker : RevisionRead
  headMarker : RevisionRead
deriving DecidableEq, Repr

/-- What a completed check found; without a change the schema texts are equal. -/
structure Verdict where
  status : ExitStatus
  baseVersion : SemVer
  headVersion : SemVer
  expectedVersion : SemVer
  change : Option Outcome
deriving DecidableEq, Repr

/-- Is the head version the expected one? -/
def Verdict.isMatch (verdict : Verdict) : Bool := verdict.status == .versionsMatch

/-! ## Stages -/

/-- The store must be available. -/
def requireStore : Probe → Except CheckFault Unit
  | .error message => .error (.failed (.probeError message))
  | .ok .available => .ok ()
  | .ok .toolMissing => .error (.failed .toolMissing)
  | .ok .notAStore => .error (.failed .notAStore)
  | .ok .unknownError => .error (.failed .probeFailed)

/-- A reader must answer for a file. -/
def requireAnswer (ref path : String) :
    Except Text.DecodeBreak RevisionRead → Except CheckFault RevisionRead
  | .ok read => .ok read
  | .error cause => .error (.broken (.reading ref path cause))

/-- A schema must be found. -/
def requireSchema (side : Side) (read : RevisionRead) : Except CheckFault String :=
  match read.text? with
  | some text => .ok text
  | none => .error (.failed (.schemaUnreadable side read.location read.detail?))

/-- The version in the text of a marker file. -/
def versionOfText (location text : String) : Except CheckFault SemVer :=
  match SemVer.parseMarker text with
  | .ok version => .ok version
  | .error (.rejected fault) => .error (.failed (.invalidMarker location fault))
  | .error .longInteger => .error (.broken (.marker location))

/-- The version that a marker file gives, or the initial version and a warning. -/
def versionOfMarker (read : RevisionRead) : Logged SemVer :=
  match read.text? with
  | some text => .ofResult (versionOfText read.location text)
  | none => do
    Logged.tell ⟨.warning, "Unable to retrieve \"" ++ read.location
      ++ "\" file. Supposing it to be \"" ++ SemVer.initial.text ++ "\""⟩
    return SemVer.initial

/-- The declarations of a schema, all of whose constructs must have one. -/
def requireComplete (side : Side) : Except SchemaFault Extraction →
    Except CheckFault (List Declaration)
  | .error fault => .error (.failed (.invalidSchema side fault))
  | .ok extraction =>
    match extraction.unsupported with
    | [] => .ok extraction.declarations
    | first :: rest => .error (.failed (.unsupported side first rest))

theorem requireComplete_of_complete (side : Side) {extraction : Extraction}
    (h : extraction.isComplete = true) :
    requireComplete side (.ok extraction) = .ok extraction.declarations := by
  rw [requireComplete, List.isEmpty_iff.mp h]

/-- What is logged about a comparison. -/
def comparisonEntry (outcome : Outcome) : LogEntry :=
  ⟨.debug, "Declaration diff: " ++ toString outcome.removed.length ++ " removed, "
    ++ toString outcome.added.length ++ " added => " ++ outcome.bump.label⟩

/-- The change between two schemas whose extractions are given. -/
def compareExtractions (base head : Except SchemaFault Extraction) : Logged Outcome := do
  let before ← Logged.ofResult (requireComplete .base base)
  let after ← Logged.ofResult (requireComplete .head head)
  let outcome := compareDeclarations before after
  Logged.tell (comparisonEntry outcome)
  return outcome

theorem result_compareExtractions {before after : Extraction} (hb : before.isComplete = true)
    (ha : after.isComplete = true) :
    (compareExtractions (.ok before) (.ok after)).result
      = .ok (compareDeclarations before.declarations after.declarations) := by
  rw [compareExtractions, requireComplete_of_complete .base hb,
    requireComplete_of_complete .head ha]
  rfl

/-- The change between two schema texts. -/
def compareTexts (base head : String) : Logged Outcome :=
  compareExtractions (extractText base) (extractText head)

/-- The change between two schema texts, none if they are equal. -/
def changeBetween (base head : String) : Logged (Option Outcome) :=
  if base = head then return none else return some (← compareTexts base head)

/-- The verdict on two versions and a change. -/
def Verdict.of (baseVersion headVersion : SemVer) (change : Option Outcome) : Verdict :=
  let expected := baseVersion.expectedAfter (change.map Outcome.bump)
  ⟨if headVersion = expected then .versionsMatch else .versionsDiffer, baseVersion, headVersion,
    expected, change⟩

/-- What is logged about a verdict. -/
def verdictEntry (request : CheckRequest) (verdict : Verdict) : LogEntry :=
  ⟨.debug, "Expected " ++ verdict.expectedVersion.text ++ ", found " ++ verdict.headVersion.text
    ++ " at " ++ request.headRef⟩

/-! ## The check -/

namespace CheckRequest

/-- Reads both schemas, then both markers. All four are asked for before an answer is looked at. -/
def readArtifacts (request : CheckRequest) (reader : FrailReader) : Logged Artifacts := do
  let baseSchema ← Logged.ask reader request.baseRef request.schemaFile
  let headSchema ← Logged.ask reader request.headRef request.schemaFile
  let baseMarker ← Logged.ask reader request.baseRef request.markerFile
  let headMarker ← Logged.ask reader request.headRef request.markerFile
  return ⟨← .ofResult (requireAnswer request.baseRef request.schemaFile baseSchema),
    ← .ofResult (requireAnswer request.headRef request.schemaFile headSchema),
    ← .ofResult (requireAnswer request.baseRef request.markerFile baseMarker),
    ← .ofResult (requireAnswer request.headRef request.markerFile headMarker)⟩

/-- The check after all files were read. -/
def examine (request : CheckRequest) (artifacts : Artifacts) : Logged Verdict := do
  let baseSchema ← Logged.ofResult (requireSchema .base artifacts.baseSchema)
  let headSchema ← Logged.ofResult (requireSchema .head artifacts.headSchema)
  let baseVersion ← versionOfMarker artifacts.baseMarker
  let headVersion ← versionOfMarker artifacts.headMarker
  let change ← changeBetween baseSchema headSchema
  let verdict := Verdict.of baseVersion headVersion change
  Logged.tell (verdictEntry request verdict)
  return verdict

/-- The check of a request, with a store as its probe and reader show it. Nothing is read before
the store was found available. -/
def checkFrail (request : CheckRequest) (probe : Probe) (reader : FrailReader) :
    Logged Verdict := do
  Logged.ofResult (requireStore probe)
  let artifacts ← request.readArtifacts reader
  request.examine artifacts

/-- The check of a request with a reader that always answers. -/
def check (request : CheckRequest) (probe : Probe) (reader : Reader) : Logged Verdict :=
  request.checkFrail probe fun ref path => .ok (reader ref path)

end CheckRequest

end SchemaSemver
