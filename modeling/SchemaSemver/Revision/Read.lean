/-
SchemaSemver.Revision.Read — what a revision store answers.

A store is probed once and then asked for files at revisions. Each answer says what came of it; a
detail is a line of explanation that the store may give.
-/
import SchemaSemver.Text.Encoding

namespace SchemaSemver

/-- What became of reading one file. -/
inductive ReadStatus where
  | found
  | notFound
  | failed
deriving DecidableEq, Repr

/-- The answer for one file at one revision. Text and detail may be missing whatever the status. -/
structure RevisionRead where
  ref : String
  path : String
  status : ReadStatus
  content : Option String
  detail : Option String
deriving DecidableEq, Repr

namespace RevisionRead

/-- The answer for a file that was found. -/
def found (ref path text : String) : RevisionRead := ⟨ref, path, .found, some text, none⟩

/-- The answer for a file that is not there. -/
def notFound (ref path : String) (detail : Option String) : RevisionRead :=
  ⟨ref, path, .notFound, none, detail⟩

/-- The answer for a file that could not be read. -/
def failed (ref path detail : String) : RevisionRead := ⟨ref, path, .failed, none, some detail⟩

/-- The file and its revision as they are named in messages. -/
def location (read : RevisionRead) : String := read.ref ++ ":" ++ read.path

/-- The text of the file, if it was found. -/
def text? (read : RevisionRead) : Option String :=
  match read.status with
  | .found => read.content
  | _ => none

/-- The explanation of the answer, if there is one to show. -/
def detail? (read : RevisionRead) : Option String := read.detail.filter (!·.isEmpty)

end RevisionRead

/-- What a probe says about a store. -/
inductive Availability where
  | available
  | toolMissing
  | notAStore
  | unknownError
deriving DecidableEq, Repr

/-- A probe says how available the store is, or fails with a message. -/
abbrev Probe := Except String Availability

/-- A reader answers for any revision and path. -/
abbrev Reader := String → String → RevisionRead

/-- A reader that may break off instead of answering. -/
abbrev FrailReader := String → String → Except Text.DecodeBreak RevisionRead

end SchemaSemver
