/-
SchemaSemver.Check.Report — the lines printed about a completed check.

A change is explained by its reason and, if wanted, by the declarations that were removed and
added; a patch needs no explanation. The verdict closes the report. There is no report where it
would have to write a version with too many digits.
-/
import SchemaSemver.Check.Run

namespace SchemaSemver

/-- A declaration as the report lists it. -/
def Declaration.line (declaration : Declaration) : String :=
  "  - " ++ declaration.path ++ " : " ++ declaration.signature

/-- Declarations below a title; nothing if there are none. -/
def reportSection (title : String) (declarations : List Declaration) : List String :=
  if declarations.isEmpty then [] else "" :: title :: declarations.map Declaration.line

/-- The explanation of a change. -/
def Outcome.report (outcome : Outcome) (listsDeclarations : Bool) : List String :=
  if outcome.bump = .patch then []
  else if listsDeclarations then
    outcome.reason.text :: (reportSection "Removals:" outcome.removed
      ++ reportSection "Additions:" outcome.added)
  else [outcome.reason.text]

/-- The line that states a verdict. -/
def Verdict.line (verdict : Verdict) (request : CheckRequest) : String :=
  if verdict.isMatch then "Nothing to do here."
  else "\"" ++ request.headRef ++ "\" version mismatch. Expected: "
    ++ verdict.expectedVersion.text

/-- The report on a completed check. -/
def Verdict.report (verdict : Verdict) (request : CheckRequest) (listsDeclarations : Bool) :
    List String :=
  (match verdict.change with
    | some outcome => outcome.report listsDeclarations
    | none => []) ++ ["", verdict.line request]

/-- Can the report be written? Only a mismatch shows the expected version. -/
def Verdict.isWritable (verdict : Verdict) : Bool :=
  verdict.isMatch || !verdict.expectedVersion.isLong

end SchemaSemver
