/-
SchemaSemver.Check.ExitStatus — how a run of the program ends.

Two codes have a second meaning: constructs without a comparison policy end a run with the codes of
a missing tool and of a directory that is no store.
-/

namespace SchemaSemver

/-- The ways in which a run ends. -/
inductive ExitStatus where
  | versionsMatch
  | versionsDiffer
  | baseSchemaUnreadable
  | headSchemaUnreadable
  | wrongArguments
  | toolMissing
  | notAStore
  | probeFailed
  | probeError
  | invalidMarker
  | invalidSchema
  | invalidSettings
  | unsupportedType
  | unsupportedFieldType
deriving DecidableEq, Repr

namespace ExitStatus

/-- The code with which the process ends. -/
def code : ExitStatus → Nat
  | versionsMatch => 0
  | versionsDiffer => 1
  | baseSchemaUnreadable => 2
  | headSchemaUnreadable => 3
  | wrongArguments => 4
  | toolMissing => 5
  | notAStore => 6
  | probeFailed => 7
  | probeError => 8
  | invalidMarker => 9
  | invalidSchema => 10
  | invalidSettings => 11
  | unsupportedType => 5
  | unsupportedFieldType => 6

/-- The statuses in the order of their codes, without those that share the code of another. -/
def byCode : List ExitStatus :=
  [versionsMatch, versionsDiffer, baseSchemaUnreadable, headSchemaUnreadable, wrongArguments,
   toolMissing, notAStore, probeFailed, probeError, invalidMarker, invalidSchema, invalidSettings]

/-- The status of a code. -/
def ofCode? (code : Int) : Option ExitStatus :=
  if code < 0 then none else byCode[code.toNat]?

/-- Each listed status stands at the place of its code. -/
theorem byCode_codes : byCode.map code = List.range 12 := rfl

end ExitStatus

end SchemaSemver
