/-
SchemaSemver.Revision.GitStore — a revision store behind the commands of git.

The store runs one command per request: `rev-parse --git-dir` to probe the working directory, and
`show ref:path` to read a file. What a command does is a value, so a store is a pure function of
the results of its commands.
-/
import SchemaSemver.Log
import SchemaSemver.Revision.Read
import SchemaSemver.Text.LooseText

namespace SchemaSemver

/-- A command: the executable and its arguments. -/
abbrev Command := List LooseText

/-- What became of running a command. -/
inductive CommandResult where
  /-- It ended with a code and left bytes on its two outputs. -/
  | exited (code : Int) (output errors : List UInt8)
  /-- It could not be started because the executable is missing. -/
  | executableMissing (reason : String)
  /-- It could not be run for another reason. -/
  | notRun (reason : String)
deriving DecidableEq, Repr

/-- Whatever runs commands. -/
abbrev CommandRunner := Command → CommandResult

/-- How the store runs git and reads what it prints. -/
structure GitStore where
  executable : LooseText
  encoding : String
  codecs : Text.Codecs

namespace GitStore

/-- The store with the customary executable and encoding. -/
def standard : GitStore := ⟨"git", "utf-8", Text.Codecs.standard⟩

/-! ## Probing -/

/-- The command that probes the store. -/
def probeCommand (store : GitStore) : Command :=
  [store.executable, "rev-parse", "--git-dir"]

/-- What an exit code of the probe means. -/
def availabilityOfCode (code : Int) : Availability :=
  if code = 0 then .available
  else if code = 128 then .notAStore
  else if code = 127 then .toolMissing
  else .unknownError

/-- What the result of the probe command says about the store. -/
def probe (store : GitStore) : CommandResult → Probe
  | .exited code _ _ => .ok (availabilityOfCode code)
  | .executableMissing _ => .ok .toolMissing
  | .notRun reason => .error ("Unable to run " ++ store.executable.shown ++ ": " ++ reason)

/-- What probing leaves in the log. -/
def probeLog : CommandResult → List LogEntry
  | .exited code _ _ => [⟨.debug, "git probe exited with " ++ toString code⟩]
  | _ => []

/-! ## Reading -/

/-- The command that reads a file. -/
def readCommand (store : GitStore) (ref path : String) : Command :=
  [store.executable, "show", LooseText.ofString (ref ++ ":" ++ path)]

/-- The readable part of what a command said on its error output. -/
def errorText (errors : List UInt8) : String :=
  String.ofList (Text.stripChars (Text.Utf8.decodeLossy errors))

/-- What the result of the read command says about the file. -/
def readResult (store : GitStore) (ref path : String) :
    CommandResult → Except Text.DecodeBreak RevisionRead
  | .executableMissing reason => .ok (.failed ref path reason)
  | .notRun reason => .ok (.failed ref path reason)
  | .exited code output errors =>
    if code ≠ 0 then
      let detail := errorText errors
      .ok (.notFound ref path (if detail.isEmpty then none else some detail))
    else
      match Text.decodeNamed store.codecs store.encoding output with
      | .ok text => .ok (.found ref path text)
      | .error (.fault fault) =>
        .ok (.failed ref path ("Cannot decode " ++ ref ++ ":" ++ path ++ ": " ++ fault.message))
      | .error (.broken cause) => .error cause

/-- What reading leaves in the log. -/
def readLog (ref path : String) : CommandResult → List LogEntry
  | .exited code _ errors =>
    if code ≠ 0 then
      [⟨.debug, "git show " ++ ref ++ ":" ++ path ++ " failed: " ++ errorText errors⟩]
    else []
  | _ => []

/-- The reader that a runner of commands makes of the store. -/
def reader (store : GitStore) (run : CommandRunner) : FrailReader := fun ref path =>
  store.readResult ref path (run (store.readCommand ref path))

end GitStore

end SchemaSemver
